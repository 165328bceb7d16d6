import AnchorLayout.Proofs.Building.Edits
import AnchorLayout.Proofs.Document.Loading

/-!
# Runs of calls that build a layout

A layout is built by calls that append elements and edit them, of which any may fail. Through all of
this the layout is what the history of its calls says: an element keeps the number and the name that
it was given, and its rules are those left by the events that concern it.
-/

namespace AnchorLayout.Layout

/-- What a layout is asked for while it is built. -/
inductive Call (α : Type) where
  | add (width height : Dimension α) (edits : List (Params.Edit α))
  | addNamed (name : String) (width height : Dimension α) (edits : List (Params.Edit α))
  | edit (id : ElementId) (e : Params.Edit α)
deriving DecidableEq

namespace Call
variable {α : Type}

/-- The name that a call gives to the element it appends. -/
def name? : Call α → Option String
  | addNamed name .. => some name
  | _ => none

end Call

/-- A layout refuses a name that is taken, the number of no element, and numbers that are no rule. -/
def Refuses {α : Type} (l : Layout α) : Call α → LayoutError → Prop
  | .add .., _ => False
  | .addNamed name .., err => some name ∈ l.elements.map (·.name) ∧ err = .duplicateElement name
  | .edit id e, err =>
    (l.length ≤ id ∧ err = .unknownElement id) ∨ (id < l.length ∧ e.Fails err)

section
variable {α : Type} {l : Layout α} {id : ElementId} {x : Element α}

/-- Edits the parameters of an element. -/
def edit (l : Layout α) (id : ElementId) : Params.Edit α → Except LayoutError (Layout α)
  | .addRule rule => l.addRule id rule
  | .addRuleCode code anchor => l.addRuleCode id code anchor
  | .removeRule verb => Prod.fst <$> l.removeRule id verb
  | e => do return l.setParams id (← (← l.params id).edit e)

/-- Whatever the edit, the parameters of the element are edited and written back. -/
theorem edit_eq (l : Layout α) (id : ElementId) (e : Params.Edit α) :
    l.edit id e = do return l.setParams id (← (← l.params id).edit e) := by
  cases e with
  | removeRule verb =>
    simp only [edit, Layout.removeRule, Params.edit]
    cases l.params id <;> rfl
  | _ => rfl

theorem edit_of_element? (hx : l.element? id = some x) (e : Params.Edit α) :
    l.edit id e = (x.params.edit e).map (l.setParams id) := by
  rw [edit_eq, params, hx]
  cases h : x.params.edit e <;> simp [bind, Except.bind, h, pure, Except.pure, Except.map]

theorem edit_of_length_le (hid : l.length ≤ id) (e : Params.Edit α) :
    l.edit id e = .error (.unknownElement id) := by
  rw [edit_eq, params, element?, List.getElem?_eq_none hid]
  rfl

theorem addNamed_eq (l : Layout α) (name : String) (p : Params α) :
    l.addNamed name p =
      if some name ∈ l.elements.map (·.name) then .error (.duplicateElement name)
      else .ok ({ l with elements := l.elements ++ [{ name := some name, params := p }] },
        l.length) := by
  rw [addNamed]
  cases hfind : l.find? name with
  | some other =>
    have htaken : some name ∈ l.elements.map (·.name) := by
      by_contra hfree
      rw [find?_eq_none_iff.2 hfree] at hfind
      cases hfind
    rw [if_pos htaken]
  | none => rw [if_neg (find?_eq_none_iff.1 hfind)]

/-- The names of the elements that have one. -/
def givenNames (l : Layout α) : List String := l.elements.filterMap (·.name)

theorem mem_givenNames {name : String} :
    name ∈ l.givenNames ↔ some name ∈ l.elements.map (·.name) := by
  simp [givenNames]

@[simp] theorem givenNames_setParams (p : Params α) :
    (l.setParams id p).givenNames = l.givenNames := by
  have hnames : (l.setParams id p).elements.map (·.name) = l.elements.map (·.name) :=
    map_name_setParams l id p
  simpa [givenNames, List.filterMap_map, Function.comp_def] using
    congrArg (List.filterMap fun name => name) hnames

end

section
variable {α : Type} [Zero α]

/-- The layout after a call that succeeds, and the number of the element that the call has
appended. -/
def perform (l : Layout α) : Call α → Except LayoutError (Layout α × Option ElementId)
  | .add width height edits =>
    let (l, id) := l.add (Params.build width height edits)
    .ok (l, some id)
  | .addNamed name width height edits => do
    let (l, id) ← l.addNamed name (Params.build width height edits)
    return (l, some id)
  | .edit id e => do return (← l.edit id e, none)

/-- The layout after a call. -/
def step (l : Layout α) (call : Call α) : Layout α :=
  match l.perform call with
  | .ok (l, _) => l
  | .error _ => l

/-- The layout after some calls. -/
def run (l : Layout α) (calls : List (Call α)) : Layout α := calls.foldl step l

variable {l : Layout α} {call : Call α} {calls : List (Call α)} {id : ElementId} {x : Element α}
  {events : List RuleEvent}

/-! ## One call -/

theorem step_add (width height : Dimension α) (edits : List (Params.Edit α)) :
    l.step (.add width height edits) =
      { l with elements := l.elements ++ [{ name := none, params := .build width height edits }] } :=
  rfl

theorem step_addNamed (name : String) (width height : Dimension α) (edits : List (Params.Edit α)) :
    l.step (.addNamed name width height edits) =
      if some name ∈ l.elements.map (·.name) then l
      else { l with elements :=
        l.elements ++ [{ name := some name, params := .build width height edits }] } := by
  rw [step, perform, addNamed_eq]
  by_cases htaken : some name ∈ l.elements.map (·.name)
  · rw [if_pos htaken, if_pos htaken]
    rfl
  · rw [if_neg htaken, if_neg htaken]
    rfl

theorem step_edit (hx : l.element? id = some x) (e : Params.Edit α) :
    l.step (.edit id e) = l.setParams id (x.params.edited e) := by
  rw [step, perform, edit_of_element? hx, Params.edited]
  cases x.params.edit e with
  | ok p => rfl
  | error err => exact (setParams_self hx).symm

theorem step_edit_of_length_le (hid : l.length ≤ id) (e : Params.Edit α) :
    l.step (.edit id e) = l := by
  rw [step, perform, edit_of_length_le hid]
  rfl

/-- Names that do not repeat still do not repeat after a call. -/
theorem nodup_givenNames_step (h : l.givenNames.Nodup) : (l.step call).givenNames.Nodup := by
  cases call with
  | add width height edits => simpa [step_add, givenNames] using h
  | addNamed name width height edits =>
    rw [step_addNamed]
    split
    case isTrue htaken => exact h
    case isFalse hfree =>
      have hnext : givenNames { l with elements :=
          l.elements ++ [{ name := some name, params := .build width height edits }] } =
          l.givenNames ++ [name] := by
        simp [givenNames]
      rw [hnext, List.nodup_append_comm]
      exact List.nodup_cons.2 ⟨fun hmem => hfree (mem_givenNames.1 hmem), h⟩
  | edit id e =>
    cases hx : l.element? id with
    | some x => rwa [step_edit hx, givenNames_setParams]
    | none => rwa [step_edit_of_length_le (List.getElem?_eq_none_iff.1 hx)]

/-! ## Runs of calls -/

theorem run_append (before after : List (Call α)) :
    l.run (before ++ after) = (l.run before).run after :=
  List.foldl_append

theorem run_concat (calls : List (Call α)) (call : Call α) :
    l.run (calls ++ [call]) = (l.run calls).step call :=
  run_append calls [call]

theorem nodup_givenNames_run (hl : l.elements = []) (calls : List (Call α)) :
    (l.run calls).givenNames.Nodup := by
  induction calls using List.reverseRecOn with
  | nil => simp [run, givenNames, hl]
  | append_singleton calls call ih =>
    rw [run_concat]
    exact nodup_givenNames_step ih

end

/-- A form is built: of seven calls three are refused, one adds a rule again, and one drops a rule by
its number. -/
def sampleCalls : List (Call Coord) :=
  [.addNamed "title" (.exact (.clamp 40)) .matchParent [.addRule (.parent .centerHorizontal)],
   .add (.exact (.clamp 20)) (.exact (.clamp 5))
     [.addRule (.sibling .below 0), .addRuleCode (.clamp 9) (.clamp (-1)),
      .addRule (.sibling .alignEnd 0)],
   .addNamed "title" .matchParent .matchParent [],
   .edit 1 (.addRule (.sibling .below 0)),
   .edit 1 (.addRuleCode (.clamp 9) (.clamp 0)),
   .edit 1 (.addRuleCode (.clamp 3) (.clamp (-1))),
   .edit 2 (.setVisibility .gone)]

end AnchorLayout.Layout
