import AnchorLayout.Rule
import AnchorLayout.Json.Fault

/-!
# Errors

Errors are causes; `message` gives the wording, and `offenders` the names of the elements that an
error in the configuration is about. Elements are called by name when they have one and by number
otherwise.
-/

namespace AnchorLayout

/-- Why a file could not be opened, read or written. -/
inductive FileFault where
  | notFound
  | denied
  | noDevice
  | isDirectory
  | notDirectory
  | nameTooLong
  | noSpace
  | noMemory
  | invalidUtf8
  /-- Any other cause, in the words of the system. -/
  | other (message : String)
deriving DecidableEq

/-- The wording of the system. -/
def FileFault.message : FileFault → String
  | notFound => "No such file or directory (os error 2)"
  | denied => "Permission denied (os error 13)"
  | noDevice => "No such device or address (os error 6)"
  | isDirectory => "Is a directory (os error 21)"
  | notDirectory => "Not a directory (os error 20)"
  | nameTooLong => "File name too long (os error 36)"
  | noSpace => "No space left on device (os error 28)"
  | noMemory => "out of memory"
  | invalidUtf8 => "stream did not contain valid UTF-8"
  | other message => message

/-- What can go wrong while a layout is built or resolved. -/
inductive LayoutError where
  | danglingReference (element anchor : String)
  | cyclicConstraint (members : List String)
  | unknownElement (id : ElementId)
  | duplicateElement (name : String)
  | unknownVerb (code : Coord)
  | missingAnchor (verb : Verb)
  | unsupportedVerb (name : String)
  | invalidDimension (n : Coord)
  | document (fault : Json.Fault)
  | file (fault : FileFault)
deriving DecidableEq

namespace LayoutError

/-- The wording of an error. -/
def message : LayoutError → String
  | danglingReference element anchor =>
    "element `" ++ element ++ "` references unknown anchor `" ++ anchor ++ "`"
  | cyclicConstraint members =>
    "cyclic constraint between " ++ " -> ".intercalate (members.map fun m => "`" ++ m ++ "`")
  | unknownElement id => "element #" ++ toString id ++ " does not belong to this layout"
  | duplicateElement name => "element name `" ++ name ++ "` is declared more than once"
  | unknownVerb code => "unknown rule verb code " ++ toString code.val
  | missingAnchor verb => "rule verb `" ++ verb.title ++ "` needs a sibling anchor"
  | unsupportedVerb name => "rule verb `" ++ name ++ "` is not supported"
  | invalidDimension n => Json.dimensionComplaint n.val
  | document fault => "layout document error: " ++ fault.message
  | file fault => fault.message

/-- The elements that an error is about. -/
def offenders : LayoutError → List String
  | danglingReference element _ => [element]
  | cyclicConstraint members => members
  | duplicateElement name => [name]
  | _ => []

end LayoutError
end AnchorLayout
