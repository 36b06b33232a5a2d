import Plant.Proofs.Object.Alike

/-!
# Equal objects under edits

Equality forgets no more than handles, and no edit reads a handle for anything but the links of new
parts. So equal objects stay equal under the same edits, as long as these bring no NaN in, and
whatever is looked up in them is equal.

Results:
1. `Object.Matches.edit?`: one edit finds the same in equal objects and makes equal objects of them.
2. `Object.editAll_beq`: so does a sequence of edits.
3. `Object.sameLookups_of_beq`: every lookup in equal objects has equal results.
-/
namespace Plant

/-! ## Parameters and operations -/

namespace Parameter.Alike

variable {p q : Parameter}

theorem setValue (h : p.Alike q) (text : String) : (p.setValue text).Alike (q.setValue text) :=
  { h with value := congrArg (·.take text) h.kind }

theorem setDisabled (h : p.Alike q) (disabled : Bool) :
    (p.setDisabled disabled).Alike (q.setDisabled disabled) :=
  { h with disabled := rfl }

theorem edit (h : p.Alike q) (e : Parameter.Edit) : (p.edit e).Alike (q.edit e) := by
  rcases e with ⟨_ | text, _ | disabled⟩
  · exact h
  · exact h.setDisabled disabled
  · exact h.setValue text
  · exact (h.setValue text).setDisabled disabled

theorem hold (h : p.Alike q) (holder holder' : Option Handle) :
    (p.hold holder).Alike (q.hold holder') :=
  (alike_hold_left holder).mpr ((alike_hold_right holder').mpr h)

end Parameter.Alike

/-- A change of one entry of two lists of parameters that are alike. -/
theorem Parameter.rel_update? (which : Entry) (e : Parameter.Edit) {ps qs : List Parameter}
    (h : List.Forall₂ Parameter.Alike ps qs) :
    Option.Rel (List.Forall₂ Parameter.Alike)
      (which.update? Parameter.luaName (fun p => some (p.edit e)) ps)
      (which.update? Parameter.luaName (fun p => some (p.edit e)) qs) :=
  which.rel_update? (fun _ _ h => h.luaName) (fun _ _ h => .some (h.edit e)) h

namespace Operation.Alike

variable {a b : Operation}

theorem hold (h : a.Alike b) (holder holder' : Option Handle) :
    (a.hold holder).Alike (b.hold holder') :=
  (alike_hold_left holder).mpr ((alike_hold_right holder').mpr h)

theorem addProperty (h : a.Alike b) (p : Parameter) : (a.addProperty p).Alike (b.addProperty p) :=
  { h with
    properties := List.rel_append h.properties (.cons (Parameter.alike_rfl.hold _ _) .nil) }

theorem edit? (h : a.Alike b) (e : Operation.Edit) :
    Option.Rel Operation.Alike (a.edit? e) (b.edit? e) := by
  cases e with
  | addProperty p => exact .some (h.addProperty p)
  | editProperty which e =>
    refine rel_map (Parameter.rel_update? which e h.properties) fun _ _ properties => ?_
    exact { h with properties }

end Operation.Alike

/-! ## System parameters -/

namespace SystemParameters

variable {s t : SystemParameters}

/-- The new entries are equal as the value is equal to itself. -/
theorem add_beq (h : (s == t) = true) (luaName name : String) {value : Number.Binary64}
    (real : value.isNaN = false) (meter : String) :
    ((s.add luaName name value meter).2 == (t.add luaName name value meter).2) = true := by
  obtain ⟨entries, nextIndex⟩ := beq_iff.mp h
  refine beq_iff.mpr ⟨List.rel_append entries (.cons ?_ .nil), congrArg (· + 1) nextIndex⟩
  rw [nextIndex]
  exact SystemParameter.beq_self_iff.mpr real

theorem setValue?_beq (h : (s == t) = true) (luaName : String) {value : Number.Binary64}
    (real : value.isNaN = false) :
    Option.Rel (fun s t => (s == t) = true) (s.setValue? luaName value)
      (t.setValue? luaName value) := by
  obtain ⟨entries, nextIndex⟩ := beq_iff.mp h
  refine rel_map (rel_updateFirst? ?_ ?_ entries) fun _ _ entries => ?_
  · intro p q hpq
    rw [(SystemParameter.beq_iff.mp hpq).2.1]
  · intro p q hpq
    -- the values that the two had before do not matter
    obtain ⟨index, luaName, name, -, meter⟩ := SystemParameter.beq_iff.mp hpq
    have equal : (value == value) = true := by rw [AlikeLemmas.binary64_beq_self, real]; rfl
    exact .some (SystemParameter.beq_iff.mpr ⟨index, luaName, name, equal, meter⟩)
  · exact beq_iff.mpr ⟨entries, nextIndex⟩

end SystemParameters

/-! ## Edits of objects -/

/-- The edit brings no NaN into the object. -/
def Object.Edit.Real : Object.Edit → Prop
  | addSystem _ _ value _ => value.isNaN = false
  | setSystem _ value => value.isNaN = false
  | _ => True

namespace Object

/-- Objects that are alike and have equal system parameters. -/
abbrev Matches (a b : Object) : Prop := a.Alike (fun s t => (s == t) = true) b

variable {a b : Object}

theorem alike_part (a b : Object) (kind : ParameterKind) (luaName name text : String) :
    (a.part kind luaName name text).Alike (b.part kind luaName name text) :=
  Parameter.alike_rfl.hold _ _

namespace Matches

theorem addOperation (h : a.Matches b) (op : Operation) :
    (a.addOperation op).Matches (b.addOperation op) := by
  refine { h with operations := List.rel_append ?_ (.cons (Operation.alike_rfl.hold _ _) .nil) }
  rw [isEmpty_eq_of_forall₂ h.operations]
  split
  · exact .cons (Operation.alike_rfl.hold _ _) .nil
  · exact h.operations

theorem addGroup (h : a.Matches b) (luaName name : String) (admission : Admission) :
    (a.addGroup luaName name admission).Matches (b.addGroup luaName name admission) := by
  refine { h with groups := ?_ }
  show a.groups ++ [_] = b.groups ++ [_]
  rw [h.groups, h.owner]

theorem setGroup? (h : a.Matches b) (luaName value : String) :
    Option.Rel Matches (a.setGroup? luaName value) (b.setGroup? luaName value) := by
  rw [Object.setGroup?, Object.setGroup?, h.groups]
  cases updateFirst? _ _ b.groups with
  | none => exact .none
  | some groups => exact .some { h with groups := rfl }

theorem addSystem (h : a.Matches b) (luaName name : String) {value : Number.Binary64}
    (real : value.isNaN = false) (meter : String) :
    (a.addSystem luaName name value meter).2.Matches (b.addSystem luaName name value meter).2 :=
  { h with
    systemParameters := SystemParameters.add_beq h.systemParameters luaName name real meter }

theorem setSystem? (h : a.Matches b) (luaName : String) {value : Number.Binary64}
    (real : value.isNaN = false) :
    Option.Rel Matches (a.setSystem? luaName value) (b.setSystem? luaName value) :=
  rel_map (SystemParameters.setValue?_beq h.systemParameters luaName real)
    fun _ _ systemParameters => { h with systemParameters }

/-- Whatever an edit finds and makes, it finds and makes the same in objects that match. -/
theorem edit? (h : a.Matches b) {e : Edit} (real : e.Real) :
    Option.Rel Matches (a.edit? e) (b.edit? e) := by
  cases e with
  | setName name => exact .some { h with name := rfl }
  | setEplanName eplanName => exact .some { h with eplanName := rfl }
  | setLevel number => exact .some { h with level := rfl }
  | setBasicName basicName => exact .some { h with basicName := rfl }
  | setBindingName bindingName => exact .some { h with bindingName := rfl }
  | setPid isPid => exact .some { h with isPid := rfl }
  | setOwner owner => exact .some (Alike.setOwner h owner)
  | addOperation luaName name position => exact .some (h.addOperation _)
  | editOperation which e =>
    refine rel_map (which.rel_update? (fun _ _ hop => hop.luaName) (fun _ _ hop => hop.edit? e)
      h.operations) fun _ _ operations => ?_
    exact { h with operations }
  | addEquipment luaName name text =>
    refine .some { h with equipment := List.rel_append h.equipment (.cons ?_ .nil) }
    exact alike_part a b ..
  | editEquipment which e =>
    refine rel_map (Parameter.rel_update? which e h.equipment) fun _ _ equipment => ?_
    exact { h with equipment }
  | addActive luaName name text | addActiveBool luaName name text =>
    refine .some { h with
      aggregateParameters := List.rel_append h.aggregateParameters (.cons ?_ .nil) }
    exact alike_part a b ..
  | editAggregate which e =>
    refine rel_map (Parameter.rel_update? which e h.aggregateParameters)
      fun _ _ aggregateParameters => ?_
    exact { h with aggregateParameters }
  | setMain luaName name text => exact .some { h with mainParameter := .some (alike_part a b ..) }
  | editMain e =>
    exact rel_map h.mainParameter fun p q hpq => { h with mainParameter := .some (hpq.edit e) }
  | addGroup luaName name admission => exact .some (h.addGroup luaName name admission)
  | setGroup luaName value => exact h.setGroup? luaName value
  | addSystem luaName name value meter => exact .some (h.addSystem luaName name real meter)
  | setSystem luaName value => exact h.setSystem? luaName real

theorem edit (h : a.Matches b) {e : Edit} (real : e.Real) : (a.edit e).Matches (b.edit e) :=
  rel_getD (h.edit? real) h

end Matches

/-- Equal objects stay equal under the same edits. -/
theorem editAll_beq {es : List Edit} (h : (a == b) = true) (real : ∀ e ∈ es, e.Real) :
    (a.editAll es == b.editAll es) = true := by
  rw [beq_iff_alike] at h ⊢
  induction es generalizing a b with
  | nil => exact h
  | cons e es ih =>
    rw [List.forall_mem_cons] at real
    exact ih (Matches.edit h real.1) real.2

/-! ## Lookups -/

/-- Whatever is looked up in the two objects by a name, an index or a level, the results are equal,
and an edit finds what it is to change in both or in none. -/
structure SameLookups (a b : Object) : Prop where
  level : a.level? = b.level?
  isLevel : ∀ l, a.isLevel l = b.isLevel l
  usesGroups : a.usesGroups = b.usesGroups
  isAttachable : a.isAttachable = b.isAttachable
  operationNames : a.operationNames = b.operationNames
  operationByName : ∀ name, (a.operationByName? name == b.operationByName? name) = true
  operation : ∀ luaName, (a.operation? luaName == b.operation? luaName) = true
  property : ∀ luaName propertyName,
    ((a.operation? luaName).bind (·.property? propertyName) ==
      (b.operation? luaName).bind (·.property? propertyName)) = true
  equipment : ∀ luaName, (a.equipment? luaName == b.equipment? luaName) = true
  aggregateParameter : ∀ luaName,
    (a.aggregateParameter? luaName == b.aggregateParameter? luaName) = true
  group : ∀ luaName, a.group? luaName = b.group? luaName
  systemParameter : ∀ luaName,
    (a.systemParameters.find? luaName == b.systemParameters.find? luaName) = true
  systemParameterAt : ∀ index,
    (a.systemParameters.findIndex? index == b.systemParameters.findIndex? index) = true
  size : a.systemParameters.size = b.systemParameters.size
  isEmpty : a.systemParameters.isEmpty = b.systemParameters.isEmpty
  edits : ∀ e : Edit, (a.edit? e).isSome = (b.edit? e).isSome

namespace LookupLemmas

theorem parameter_beq {ps qs : List Parameter} (h : List.Forall₂ Parameter.Alike ps qs)
    (luaName : String) :
    (ps.find? (·.luaName == luaName) == qs.find? (·.luaName == luaName)) = true := by
  simp only [option_beq_iff, Parameter.beq_iff_alike]
  exact rel_find? (fun _ _ h => by rw [h.luaName]) h

theorem rel_operation? (h : a.Matches b) (luaName : String) :
    Option.Rel Operation.Alike (a.operation? luaName) (b.operation? luaName) :=
  rel_find? (fun _ _ h => by rw [h.luaName]) h.operations

theorem property_beq {x y : Option Operation} (h : Option.Rel Operation.Alike x y)
    (luaName : String) : (x.bind (·.property? luaName) == y.bind (·.property? luaName)) = true := by
  cases h with
  | none => rfl
  | some h => exact parameter_beq h.properties luaName

/-- Also an edit that brings in a NaN finds the same in both objects. -/
theorem isSome_edit? (h : a.Matches b) (e : Edit) : (a.edit? e).isSome = (b.edit? e).isSome := by
  cases e with
  | addSystem => rfl
  | setSystem luaName value =>
    have names : List.Forall₂ (fun p q => p.luaName = q.luaName) a.systemParameters.entries
        b.systemParameters.entries :=
      (SystemParameters.beq_iff.mp h.systemParameters).1.imp fun p q hpq =>
        (SystemParameter.beq_iff.mp hpq).2.1
    have found := rel_updateFirst? (p := (·.luaName == luaName)) (q := (·.luaName == luaName))
      (f := fun p => some { p with value }) (g := fun p => some { p with value })
      (fun p q hpq => by rw [hpq]) (fun p q hpq => .some hpq) names
    show (((updateFirst? _ _ _).map _).map _).isSome = (((updateFirst? _ _ _).map _).map _).isSome
    simp only [Option.isSome_map]
    exact isSome_eq_of_rel found
  | _ => exact isSome_eq_of_rel (h.edit? trivial)

end LookupLemmas

open LookupLemmas in
theorem sameLookups_of_beq (h : (a == b) = true) : a.SameLookups b := by
  have h : a.Matches b := beq_iff_alike.mp h
  obtain ⟨entries, nextIndex⟩ := SystemParameters.beq_iff.mp h.systemParameters
  have isLevel (l : Level) : a.isLevel l = b.isLevel l := by
    rw [Object.isLevel, Object.isLevel, h.level]
  have usesGroups : a.usesGroups = b.usesGroups := by
    rw [Object.usesGroups, Object.usesGroups, h.groups]
  constructor
  case level => rw [level?, level?, h.level]
  case isLevel => exact isLevel
  case usesGroups => exact usesGroups
  case isAttachable => rw [isAttachable, isAttachable, usesGroups, isLevel, isLevel]
  case operationNames => exact map_eq_of_forall₂ (fun _ _ h => h.name) h.operations
  case operationByName =>
    intro name
    simp only [option_beq_iff, Operation.beq_iff_alike]
    exact rel_find? (fun _ _ h => by rw [h.name]) h.operations
  case operation =>
    intro luaName
    simp only [option_beq_iff, Operation.beq_iff_alike]
    exact rel_operation? h luaName
  case property => exact fun luaName => property_beq (rel_operation? h luaName)
  case equipment => exact parameter_beq h.equipment
  case aggregateParameter => exact parameter_beq h.aggregateParameters
  case group => intro luaName; rw [group?, group?, h.groups]
  case systemParameter =>
    intro luaName
    refine option_beq_iff.mpr (rel_find? (fun p q hpq => ?_) entries)
    rw [(SystemParameter.beq_iff.mp hpq).2.1]
  case systemParameterAt =>
    intro index
    refine option_beq_iff.mpr (rel_find? (fun p q hpq => ?_) entries)
    rw [(SystemParameter.beq_iff.mp hpq).1]
  case size => exact entries.length_eq
  case isEmpty => exact isEmpty_eq_of_forall₂ entries
  case edits => exact isSome_edit? h

end Object

end Plant
