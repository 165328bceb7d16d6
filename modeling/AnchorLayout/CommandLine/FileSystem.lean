import AnchorLayout.CommandLine.Device

/-!
# Files and the paths to them

The files that a run of the program can see and write, by their full paths. A path has parts between
slashes, and each part but the last has to be a directory. The working directory and all directories
above it exist; a path to one of those starts with the parts that lead up. A slash at the end asks
for a directory.
-/

namespace AnchorLayout.CommandLine

/-- A directory, by the parts of its path from the root or from the working directory. -/
structure Place where
  absolute : Bool := false
  parts : List String := []
deriving DecidableEq

namespace Place

/-- The path of a directory, ready for a name to be put behind it. -/
def path (p : Place) : String :=
  (if p.absolute then "/" else "") ++ String.join (p.parts.map (· ++ "/"))

/-- The directory above, which the root does not have. -/
def parent (p : Place) : Place :=
  match p.parts.getLast? with
  | none => if p.absolute then p else { parts := [".."] }
  | some last => { p with parts := if last = ".." then p.parts ++ [".."] else p.parts.dropLast }

/-- The directory with a name in this one. -/
def child (p : Place) (name : String) : Place := { p with parts := p.parts ++ [name] }

end Place

/-- What a file is. -/
inductive File where
  /-- Keeps bytes. -/
  | plain (bytes : ByteArray)
  | device (d : Device)

namespace File

/-- The bytes that a file keeps. -/
def bytes : File → ByteArray
  | plain bytes => bytes
  | device _ => .empty

/-- Why a file cannot be opened, if it cannot. -/
def openFault? : File → Option FileFault
  | plain _ => none
  | device d => d.openFault?

/-- Reads all bytes of a file that has been opened. -/
def read : File → Except FileFault ByteArray
  | plain bytes => .ok bytes
  | device d => d.read

end File

/-- A directory that no file would tell. -/
structure Directory where
  path : String
  /-- Why no file can be created in it, if none can. -/
  createFault : Option FileFault := none

/-- Files by path, and directories. -/
structure FileSystem where
  files : List (String × File) := []
  directories : List Directory := []

/-- What a path leads to. -/
inductive Node where
  | directory (place : Place)
  | file (path : String)
  /-- A name that is free, in a directory. -/
  | free (place : Place) (name : String)
deriving DecidableEq

namespace FileSystem

/-- The devices of any system. -/
def standardDevices : List (String × Device) :=
  [("/dev/null", .null), ("/dev/zero", .endless), ("/dev/random", .endless),
    ("/dev/urandom", .endless), ("/dev/full", .full), ("/dev/tty", .terminal),
    ("/dev/stdin", .null), ("/dev/stdout", .stream .output), ("/dev/stderr", .stream .error),
    ("/dev/fd/0", .null), ("/dev/fd/1", .stream .output), ("/dev/fd/2", .stream .error),
    ("/proc/self/fd/0", .null), ("/proc/self/fd/1", .stream .output),
    ("/proc/self/fd/2", .stream .error)]

/-- The directories of any system. Some show the state of the system, and no file can be created in
those. -/
def standardDirectories : List Directory :=
  (["/bin", "/boot", "/dev", "/dev/shm", "/etc", "/home", "/lib", "/lib64", "/media", "/mnt", "/opt",
    "/root", "/run", "/sbin", "/srv", "/tmp", "/usr", "/usr/bin", "/usr/lib", "/usr/local",
    "/usr/sbin", "/usr/share", "/var", "/var/lib", "/var/log", "/var/tmp"].map ({ path := · })) ++
  (["/dev/fd", "/proc", "/proc/1", "/proc/self", "/proc/self/fd", "/proc/sys"].map
    ({ path := ·, createFault := some .notFound })) ++
  (["/dev/pts", "/sys", "/sys/block", "/sys/bus", "/sys/class", "/sys/dev", "/sys/devices",
    "/sys/fs", "/sys/kernel"].map ({ path := ·, createFault := some .denied }))

/-- What any system holds, with nothing to read from standard input. -/
def standard : FileSystem where
  files := standardDevices.map fun (path, d) => (path, .device d)
  directories := standardDirectories

/-- The file with a full path. -/
def file? (fs : FileSystem) (path : String) : Option File :=
  (fs.files.find? (·.1 = path)).map (·.2)

/-- The directory with a full path, unless it is the root, the working directory or above that. -/
def directory? (fs : FileSystem) (path : String) : Option Directory :=
  fs.directories.find? (·.path = path)

/-- Puts a plain file with the given bytes at a path. -/
def write (fs : FileSystem) (path : String) (bytes : ByteArray) : FileSystem :=
  { fs with files := fs.files.filter (·.1 ≠ path) ++ [(path, .plain bytes)] }

/-- What has been written is found again. -/
theorem file?_write_self (fs : FileSystem) (path : String) (bytes : ByteArray) :
    (fs.write path bytes).file? path = some (.plain bytes) := by
  have h : (fs.files.filter (·.1 ≠ path)).find? (·.1 = path) = none := by
    simp [List.find?_eq_none]
  rw [file?, write, List.find?_append, h]
  simp

/-- Writing a file leaves the others as they are. -/
theorem file?_write_of_ne (fs : FileSystem) {path other : String} (bytes : ByteArray)
    (h : path ≠ other) : (fs.write path bytes).file? other = fs.file? other := by
  have hf : (fs.files.filter (·.1 ≠ path)).find? (·.1 = other) =
      fs.files.find? (·.1 = other) := by
    rw [List.find?_filter]
    congr 1
    funext f
    by_cases ho : f.1 = other <;> simp [ho, h.symm]
  simp only [file?, write, List.find?_append, hf]
  simp [h]

/-- The greatest number of bytes in a name. -/
def nameLimit : Nat := 255

/-- The greatest number of bytes in a path. -/
def pathLimit : Nat := 4095

/-- Takes one part of a path in a directory. -/
def lookup (fs : FileSystem) (p : Place) (part : String) : Except FileFault Node :=
  let path := p.path ++ part
  if part = "." then .ok (.directory p)
  else if part = ".." then .ok (.directory p.parent)
  else if nameLimit < part.utf8ByteSize then .error .nameTooLong
  else if (fs.directory? path).isSome then .ok (.directory (p.child part))
  else .ok (if (fs.file? path).isSome then .file path else .free p part)

/-- Goes from a directory to another, part by part. -/
def enter (fs : FileSystem) (p : Place) : List String → Except FileFault Place
  | [] => .ok p
  | part :: rest => do
    match ← fs.lookup p part with
    | .directory q => fs.enter q rest
    | .file _ => throw .notDirectory
    | .free _ _ => throw .notFound

/-- The parts of a path, which stand between slashes. -/
def pathParts (path : String) : List String :=
  ((path.toList.splitOn '/').filter (· ≠ [])).map String.ofList

/-- Follows a path, to read what is there or to write a file. A file that is to be written cannot
have a slash behind its name. -/
def follow (fs : FileSystem) (path : String) (writing : Bool) : Except FileFault Node := do
  if pathLimit < path.utf8ByteSize then throw .nameTooLong
  let parts := pathParts path
  let start : Place := { absolute := path.startsWith "/" }
  match parts.getLast? with
  | none => return .directory start
  | some last =>
    let place ← fs.enter start parts.dropLast
    let slashed := path.endsWith "/" && last ≠ "." && last ≠ ".."
    if slashed && writing then throw .isDirectory
    match ← fs.lookup place last with
    | .file path => if slashed then throw .notDirectory else return .file path
    | node => return node

/-- Opens the file with a full path. -/
def openFile (fs : FileSystem) (path : String) : Except FileFault File :=
  match fs.file? path with
  | none => .error .notFound
  | some file =>
    match file.openFault? with
    | some fault => .error fault
    | none => .ok file

/-- Reads a file. -/
def read (fs : FileSystem) (path : String) : Except FileFault ByteArray := do
  match ← fs.follow path false with
  | .directory _ => throw .isDirectory
  | .free _ _ => throw .notFound
  | .file path => (← fs.openFile path).read

/-- Creates an empty file in a directory. -/
def create (fs : FileSystem) (place : Place) (name : String) : Except FileFault FileSystem :=
  match fs.directories.find? (·.path ++ "/" = place.path) >>= (·.createFault) with
  | some fault => .error fault
  | none => .ok (fs.write (place.path ++ name) .empty)

/-- Opens a file to append to it, and creates it if there is none. The file is returned by its full
path. -/
def openAppend (fs : FileSystem) (path : String) : Except FileFault (FileSystem × String) := do
  match ← fs.follow path true with
  | .directory _ => throw .isDirectory
  | .free place name => return (← fs.create place name, place.path ++ name)
  | .file path =>
    discard (fs.openFile path)
    return (fs, path)

/-- Appends text to the file with a full path. -/
def append (fs : FileSystem) (path : String) (text : String) : Except FileFault FileSystem :=
  match fs.file? path with
  | some (.device d) =>
    match d.writeFault? with
    | some fault => .error fault
    | none => .ok fs
  | some (.plain bytes) => .ok (fs.write path (bytes ++ text.toUTF8))
  | none => .ok (fs.write path text.toUTF8)

/-- The stream to which a file hands what is written. -/
def stream? (fs : FileSystem) (path : String) : Option Stream :=
  match fs.file? path with
  | some (.device d) => d.stream?
  | _ => none

end FileSystem
end AnchorLayout.CommandLine
