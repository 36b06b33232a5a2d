import Mathlib
import Plant.Object.Edit
import Plant.Proofs.Entry

/-!
# Edits by name

An edit by name changes the first entry of that name, in one list and in nothing else; if there is
no such entry it changes nothing at all. An operation is found by its name first, and only in the
one that is found is a property looked for. Giving an entry the value that it has changes nothing.

Results:
1. `changesFirst_of_update`: what holds of every list whose first entry of a name is changed.
2. `changesProperty`: the same for a property, which takes two searches.
3. `firstMatch_exact`: all edits by name, and edits that give an entry the value that it has.
-/
namespace Plant

/-! ## Definitions -/

/-- Nothing about the parameter is different but its value, which is what its kind takes from the
text, and whether it is disabled; each is as before if the edit says nothing about it. -/
structure Parameter.Edited (e : Parameter.Edit) (p q : Parameter) : Prop where
  kind : q.kind = p.kind
  luaName : q.luaName = p.luaName
  name : q.name = p.name
  value : q.value = e.text.elim p.value p.kind.take
  defaultValue : q.defaultValue = p.defaultValue
  disabled : q.disabled = e.disabled.getD p.disabled
  holder : q.holder = p.holder

/-- The edit that gives a parameter the value of a text and does nothing else. -/
def Parameter.Edit.ofText (text : String) : Parameter.Edit :=
  { text := some text, disabled := none }

/-- The edit that changes a property of an operation, both found by name. -/
def Object.Edit.property (operation luaName : String) (e : Parameter.Edit) : Object.Edit :=
  .editOperation (.named operation) (.editProperty (.named luaName) e)

namespace Object

variable {α : Type}

/-- The first property of a name in the first operation of a name. -/
def property? (operation luaName : String) (o : Object) : Option Parameter :=
  (o.operation? operation).bind (·.property? luaName)

/-- The edit looks for an entry of that name in a list. It finds none exactly if there is none, and
then the object stays as it is. Otherwise it changes the first one, and the object is the same with
the list in which this entry is changed; a lookup by the name finds the changed entry. -/
structure ChangesFirst (o : Object) (e : Edit) (name : α → String) (wanted : String)
    (entries : List α) (put : List α → Object) (lookup : Object → Option α) (change : α → α) :
    Prop where
  refused : o.edit? e = none ↔ ∀ a ∈ entries, name a ≠ wanted
  unchanged : o.edit? e = none → o.edit e = o ∧ lookup o = none
  changed : ∀ o', o.edit? e = some o' → ∃ before a after,
    FirstNamed name wanted entries before a after ∧ o' = put (before ++ change a :: after) ∧
      lookup o = some a ∧ lookup o' = some (change a)

/-- The edit looks for the first operation of a name and for the first property of a name in that
operation, whatever other operations have the name. -/
structure ChangesProperty (o : Object) (operation luaName : String) (e : Parameter.Edit) :
    Prop where
  refused : o.edit? (.property operation luaName e) = none ↔
    (∀ op ∈ o.operations, op.luaName ≠ operation) ∨ ∃ before op after,
      FirstNamed Operation.luaName operation o.operations before op after ∧
        ∀ p ∈ op.properties, p.luaName ≠ luaName
  unchanged : o.edit? (.property operation luaName e) = none →
    o.edit (.property operation luaName e) = o ∧ o.property? operation luaName = none
  changed : ∀ o', o.edit? (.property operation luaName e) = some o' →
    ∃ before op after before' p after',
      FirstNamed Operation.luaName operation o.operations before op after ∧
      FirstNamed Parameter.luaName luaName op.properties before' p after' ∧
      o' = { o with
        operations := before ++ { op with properties := before' ++ p.edit e :: after' } :: after } ∧
      o.property? operation luaName = some p ∧ o'.property? operation luaName = some (p.edit e)

end Object

/-! ## Parameters -/

namespace Parameter

theorem edited_edit (p : Parameter) (e : Parameter.Edit) : p.Edited e (p.edit e) := by
  rcases e with ⟨_ | text, _ | disabled⟩ <;> exact ⟨rfl, rfl, rfl, rfl, rfl, rfl, rfl⟩

/-- The value of a parameter is one that its kind takes as it is. -/
theorem setValue_value (p : Parameter) : p.setValue p.value = p := by
  simp only [setValue, p.take_value]

theorem edit_ofText_value (p : Parameter) : p.edit (.ofText p.value) = p := p.setValue_value

end Parameter

namespace Object

variable {α : Type}

/-! ## Edits of one list -/

theorem edit_of_edit?_eq_none {o : Object} {e : Edit} (refused : o.edit? e = none) :
    o.edit e = o := by
  rw [edit, refused]
  rfl

section Lists

variable {o : Object} {e : Edit} {name : α → String} {wanted : String} {entries : List α}
  {put : List α → Object} {lookup : Object → Option α} {change : α → α}

/-- What is changed by name and looked up by name is the first entry of that name. -/
theorem changesFirst_of_update
    (edit : o.edit? e =
      (updateFirst? (name · == wanted) (fun a => some (change a)) entries).map put)
    (find : lookup o = entries.find? (name · == wanted))
    (find_put : ∀ as, lookup (put as) = as.find? (name · == wanted))
    (name_change : ∀ a, name (change a) = name a) :
    o.ChangesFirst e name wanted entries put lookup change := by
  have refused : o.edit? e = none ↔ ∀ a ∈ entries, name a ≠ wanted := by
    rw [edit, Option.map_eq_none_iff, updateFirst?_eq_none_iff]
  refine ⟨refused, fun he => ⟨edit_of_edit?_eq_none he, ?_⟩, fun o' ho' => ?_⟩
  · rw [find, find?_eq_none (refused.mp he)]
  · rw [edit] at ho'
    obtain ⟨as, has, rfl⟩ := Option.map_eq_some_iff.mp ho'
    obtain ⟨before, a, after, first, rfl⟩ := exists_firstNamed_of_updateFirst? has
    have again := first.replace ((name_change a).trans first.named)
    exact ⟨before, a, after, first, rfl, find.trans first.find?_eq,
      (find_put _).trans again.find?_eq⟩

/-- A change that leaves the entry as it is leaves the object as it is. -/
theorem ChangesFirst.edit?_eq_self (h : o.ChangesFirst e name wanted entries put lookup change)
    (put_entries : put entries = o) {a : α} (found : lookup o = some a) (same : change a = a) :
    o.edit? e = some o := by
  cases he : o.edit? e with
  | none =>
    rw [(h.unchanged he).2] at found
    cases found
  | some o' =>
    obtain ⟨before, b, after, first, rfl, found', -⟩ := h.changed o' he
    cases Option.some.inj (found.symm.trans found')
    rw [same, ← first.split, put_entries]

end Lists

/-- An edit of one of the lists of parameters. -/
theorem changesFirst_of_parameters {o : Object} {e : Edit} {luaName : String} {ps : List Parameter}
    {put : List Parameter → Object} {lookup : Object → Option Parameter} (change : Parameter.Edit)
    (edit : o.edit? e =
      ((Entry.named luaName).update? Parameter.luaName (fun p => some (p.edit change)) ps).map put)
    (find : lookup o = ps.find? (·.luaName == luaName))
    (find_put : ∀ ps, lookup (put ps) = ps.find? (·.luaName == luaName)) :
    o.ChangesFirst e Parameter.luaName luaName ps put lookup (·.edit change) :=
  changesFirst_of_update edit find find_put fun p => (p.edited_edit change).luaName

/-! ## Properties -/

section Properties

variable {o : Object} {operation luaName : String} {e : Parameter.Edit}
  {before after : List Operation} {op : Operation} {before' after' : List Parameter} {p : Parameter}

theorem edit?_property_of_first
    (first : FirstNamed Operation.luaName operation o.operations before op after) :
    o.edit? (.property operation luaName e) =
      (op.editProperty? (.named luaName) e).map fun op =>
        { o with operations := before ++ op :: after } := by
  show ((updateFirst? (Operation.luaName · == operation) _ o.operations).map _) = _
  rw [first.updateFirst?_eq, Option.map_map]
  rfl

theorem property?_of_first
    (first : FirstNamed Operation.luaName operation o.operations before op after) :
    o.property? operation luaName = op.property? luaName := by
  rw [property?, operation?, first.find?_eq]
  rfl

theorem changesProperty_of_refused (refused : o.edit? (.property operation luaName e) = none)
    (missing : o.property? operation luaName = none)
    (absent : (∀ op ∈ o.operations, op.luaName ≠ operation) ∨ ∃ before op after,
      FirstNamed Operation.luaName operation o.operations before op after ∧
        ∀ p ∈ op.properties, p.luaName ≠ luaName) : o.ChangesProperty operation luaName e := by
  refine ⟨iff_of_true refused absent, fun _ => ⟨edit_of_edit?_eq_none refused, missing⟩,
    fun o' ho' => ?_⟩
  rw [refused] at ho'
  cases ho'

theorem changesProperty_of_first
    (first : FirstNamed Operation.luaName operation o.operations before op after)
    (first' : FirstNamed Parameter.luaName luaName op.properties before' p after') :
    o.ChangesProperty operation luaName e := by
  let op' : Operation := { op with properties := before' ++ p.edit e :: after' }
  have accepted : o.edit? (.property operation luaName e) =
      some { o with operations := before ++ op' :: after } := by
    rw [edit?_property_of_first first, Operation.editProperty?, Entry.update?,
      first'.updateFirst?_eq]
    rfl
  have present : o.edit? (.property operation luaName e) ≠ none := by
    rw [accepted]
    exact Option.some_ne_none _
  refine ⟨iff_of_false present ?_, fun refused => absurd refused present, fun o' ho' => ?_⟩
  · rintro (absent | ⟨_, other, _, found, absent⟩)
    · exact first.not_forall absent
    · rw [← first.unique found] at absent
      exact first'.not_forall absent
  · rw [accepted] at ho'
    cases ho'
    have there : FirstNamed Operation.luaName operation (before ++ op' :: after) before op' after :=
      first.replace first.named
    have again := first'.replace ((p.edited_edit e).luaName.trans first'.named)
    refine ⟨before, op, after, before', p, after', first, first', rfl, ?_, ?_⟩
    · exact (property?_of_first first).trans first'.find?_eq
    · exact (property?_of_first (o := { o with operations := _ }) there).trans again.find?_eq

theorem changesProperty (o : Object) (operation luaName : String) (e : Parameter.Edit) :
    o.ChangesProperty operation luaName e := by
  rcases forall_or_firstNamed Operation.luaName operation o.operations with
    absent | ⟨before, op, after, first⟩
  case inl =>
    refine changesProperty_of_refused ?_ ?_ (.inl absent)
    · show ((updateFirst? (Operation.luaName · == operation) _ o.operations).map _) = none
      rw [updateFirst?_eq_none absent]
      rfl
    · rw [property?, operation?, find?_eq_none absent]
      rfl
  rcases forall_or_firstNamed Parameter.luaName luaName op.properties with
    absent | ⟨before', p, after', first'⟩
  case inl =>
    refine changesProperty_of_refused ?_ ?_ (.inr ⟨before, op, after, first, absent⟩)
    · rw [edit?_property_of_first first, Operation.editProperty?, Entry.update?,
        updateFirst?_eq_none absent]
      rfl
    · rw [property?_of_first first, Operation.property?, find?_eq_none absent]
  case inr => exact changesProperty_of_first first first'

theorem ChangesProperty.edit?_eq_self (h : o.ChangesProperty operation luaName e)
    (found : o.property? operation luaName = some p) (same : p.edit e = p) :
    o.edit? (.property operation luaName e) = some o := by
  cases he : o.edit? (.property operation luaName e) with
  | none =>
    rw [(h.unchanged he).2] at found
    cases found
  | some o' =>
    obtain ⟨before, op, after, before', q, after', first, first', rfl, found', -⟩ := h.changed o' he
    cases Option.some.inj (found.symm.trans found')
    rw [same, ← first'.split, ← first.split]

end Properties

/-! ## All edits by name -/

/-- What edits that look for a name change in the object. -/
structure ChangesByName (o : Object) (luaName : String) : Prop where
  property : ∀ operation e, o.ChangesProperty operation luaName e
  equipment : ∀ e, o.ChangesFirst (.editEquipment (.named luaName) e) Parameter.luaName luaName
    o.equipment (fun equipment => { o with equipment }) (·.equipment? luaName) (·.edit e)
  aggregate : ∀ e, o.ChangesFirst (.editAggregate (.named luaName) e) Parameter.luaName luaName
    o.aggregateParameters (fun aggregateParameters => { o with aggregateParameters })
    (·.aggregateParameter? luaName) (·.edit e)
  group : ∀ value, o.ChangesFirst (.setGroup luaName value) Group.luaName luaName
    o.groups (fun groups => { o with groups })
    (·.group? luaName) fun g => { g with value }
  system : ∀ value, o.ChangesFirst (.setSystem luaName value) SystemParameter.luaName luaName
    o.systemParameters.entries
    (fun entries => { o with systemParameters := { o.systemParameters with entries } })
    (·.systemParameters.find? luaName) fun s => { s with value }

theorem changesByName (o : Object) (luaName : String) : o.ChangesByName luaName where
  property operation e := changesProperty o operation luaName e
  equipment e := changesFirst_of_parameters e rfl rfl fun _ => rfl
  aggregate e := changesFirst_of_parameters e rfl rfl fun _ => rfl
  group _ := changesFirst_of_update rfl rfl (fun _ => rfl) fun _ => rfl
  system _ := changesFirst_of_update (Option.map_map ..) rfl (fun _ => rfl) fun _ => rfl

theorem edit?_editMain_value (o : Object) {p : Parameter} (found : o.mainParameter = some p) :
    o.edit? (.editMain (.ofText p.value)) = some o := by
  show o.mainParameter.map _ = some o
  rw [found, Option.map_some, p.edit_ofText_value, ← found]

/-- An edit by name finds nothing exactly if the name is not in the list where it looks, and then
changes nothing; otherwise it changes the value of the first entry of that name, and whether that is
disabled, and leaves all else as it was. An edit that gives an entry the value that it has leaves
the object as it is. -/
theorem firstMatch_exact (o : Object) (luaName : String) :
    o.ChangesByName luaName ∧
    (∀ (p : Parameter) e, p.Edited e (p.edit e)) ∧
    (∀ p : Parameter, p.setValue p.value = p) ∧
    (∀ operation p, o.property? operation luaName = some p →
      o.edit? (.property operation luaName (.ofText p.value)) = some o) ∧
    (∀ p, o.equipment? luaName = some p →
      o.edit? (.editEquipment (.named luaName) (.ofText p.value)) = some o) ∧
    (∀ p, o.aggregateParameter? luaName = some p →
      o.edit? (.editAggregate (.named luaName) (.ofText p.value)) = some o) ∧
    (∀ p, o.mainParameter = some p → o.edit? (.editMain (.ofText p.value)) = some o) ∧
    (∀ g, o.group? luaName = some g → o.edit? (.setGroup luaName g.value) = some o) ∧
    ∀ s, o.systemParameters.find? luaName = some s →
      o.edit? (.setSystem luaName s.value) = some o := by
  have changes := o.changesByName luaName
  refine ⟨changes, Parameter.edited_edit, Parameter.setValue_value, ?_, ?_, ?_, ?_, ?_, ?_⟩
  · intro operation p found
    exact (changes.property operation _).edit?_eq_self found p.edit_ofText_value
  · exact fun p found => (changes.equipment _).edit?_eq_self rfl found p.edit_ofText_value
  · exact fun p found => (changes.aggregate _).edit?_eq_self rfl found p.edit_ofText_value
  · exact fun p found => o.edit?_editMain_value found
  · exact fun g found => (changes.group _).edit?_eq_self rfl found rfl
  · exact fun s found => (changes.system _).edit?_eq_self rfl found rfl

/-- Two operations of one name with different properties, and two valves of one name. -/
def doubled : Object :=
  (Object.new .first none).editAll
    [.addOperation "FILL" "Filling" 1,
      .editOperation .last (.addProperty (.new .active "speed" "Speed" "50")),
      .addOperation "FILL" "Filling again" 2,
      .editOperation .last (.addProperty (.new .active "level" "Level" "95")),
      .addEquipment "valve" "Inlet" "V1", .addEquipment "valve" "Outlet" "V2"]

theorem firstMatch_exact_doubled :
    (∀ e, doubled.edit? (.property "FILL" "level" e) = none) ∧
    (∀ text, ∃ o', doubled.edit? (.editEquipment (.named "valve") (.ofText text)) = some o' ∧
      (o'.equipment? "valve").map (·.value) = some text) ∧
    doubled.edit? (.editEquipment (.named "valve") (.ofText "V1")) = some doubled := by
  have level := (firstMatch_exact doubled "level").1
  obtain ⟨valve, edited, -, -, same, -⟩ := firstMatch_exact doubled "valve"
  have first : (doubled.equipment? "valve").map (fun p => (p.kind, p.value)) =
      some (.equipment, "V1") := by cbv
  obtain ⟨p, inlet, shown⟩ := Option.map_eq_some_iff.mp first
  obtain ⟨kind, value⟩ := Prod.mk.inj shown
  refine ⟨fun e => (level.property "FILL" e).refused.mpr (.inr ?_), fun text => ?_, ?_⟩
  · refine ⟨doubled.operations.take 1, doubled.operations.get ⟨1, by cbv⟩,
      doubled.operations.drop 2, ⟨by cbv, ?_, by cbv⟩, ?_⟩
    · decide +kernel
    · decide +kernel
  · cases he : doubled.edit? (.editEquipment (.named "valve") (.ofText text)) with
    | none =>
      rw [((valve.equipment _).unchanged he).2] at inlet
      cases inlet
    | some o' =>
      obtain ⟨-, q, -, -, -, found, found'⟩ := (valve.equipment _).changed o' he
      cases Option.some.inj (inlet.symm.trans found)
      refine ⟨o', rfl, ?_⟩
      rw [found', Option.map_some, (edited _ _).value, kind]
      rfl
  · rw [← value]
    exact same p inlet

end Object

end Plant
