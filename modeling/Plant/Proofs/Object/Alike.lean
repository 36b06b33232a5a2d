import Mathlib.Tactic.MkIffOfInductiveProp
import Plant.Object.Edit
import Plant.Proofs.Related

/-!
# Objects that are alike

Objects are alike if they differ in nothing but the handles that they and their parts have. Equality
of objects is likeness up to the equality of numbers, under which a NaN is not equal to itself. A
copy is like its source, and equal to it unless there is a NaN among its system parameters.

Results:
1. `Object.beq_iff_alike`: equal objects are those that are alike, with equal system parameters.
2. `Object.alike_copy_left`, `Object.alike_copy_right`: likeness does not tell a copy from its
   source.
3. `Object.alike_of_common`, `Object.beq_iff_of_alike`: what is like the same object is alike, and
   equal but for a NaN.
4. `Object.copy_beq_self_iff`: the objects that are equal to their copies.
-/
namespace Plant

/-- Parameters that are the same but for the objects that they are part of. -/
@[mk_iff] structure Parameter.Alike (p q : Parameter) : Prop where
  kind : p.kind = q.kind
  luaName : p.luaName = q.luaName
  name : p.name = q.name
  value : p.value = q.value
  defaultValue : p.defaultValue = q.defaultValue
  disabled : p.disabled = q.disabled

/-- Operations that are the same but for the objects that they and their properties are part of. -/
@[mk_iff] structure Operation.Alike (a b : Operation) : Prop where
  luaName : a.luaName = b.luaName
  name : a.name = b.name
  position : a.position = b.position
  properties : List.Forall₂ Parameter.Alike a.properties b.properties

/-- Objects that are the same but for handles, and whose system parameters are the same in the given
sense. -/
@[mk_iff] structure Object.Alike (same : SystemParameters → SystemParameters → Prop)
    (a b : Object) : Prop where
  name : a.name = b.name
  eplanName : a.eplanName = b.eplanName
  level : a.level = b.level
  basicName : a.basicName = b.basicName
  bindingName : a.bindingName = b.bindingName
  isPid : a.isPid = b.isPid
  owner : a.owner = b.owner
  operations : List.Forall₂ Operation.Alike a.operations b.operations
  equipment : List.Forall₂ Parameter.Alike a.equipment b.equipment
  aggregateParameters :
    List.Forall₂ Parameter.Alike a.aggregateParameters b.aggregateParameters
  mainParameter : Option.Rel Parameter.Alike a.mainParameter b.mainParameter
  groups : a.groups = b.groups
  systemParameters : same a.systemParameters b.systemParameters

/-! ## Equality -/

namespace AlikeLemmas

theorem binary64_beq_self (x : Number.Binary64) : (x == x) = !x.isNaN := by
  show (!x.isNaN && !x.isNaN && (x.bits == x.bits || (x.magnitude == 0 && x.magnitude == 0))) = _
  simp

end AlikeLemmas

open AlikeLemmas

theorem Parameter.beq_iff_alike {p q : Parameter} : (p == q) = true ↔ p.Alike q := by
  show (p.kind == q.kind && p.luaName == q.luaName && p.name == q.name && p.value == q.value &&
    p.defaultValue == q.defaultValue && p.disabled == q.disabled) = true ↔ _
  simp only [Parameter.alike_iff, Bool.and_eq_true, beq_iff_eq, and_assoc]

theorem Operation.beq_iff_alike {a b : Operation} : (a == b) = true ↔ a.Alike b := by
  show (a.luaName == b.luaName && a.name == b.name && a.position == b.position &&
    a.properties == b.properties) = true ↔ _
  simp only [Operation.alike_iff, Bool.and_eq_true, beq_iff_eq, and_assoc, list_beq_iff,
    Parameter.beq_iff_alike]

theorem SystemParameter.beq_iff {s t : SystemParameter} :
    (s == t) = true ↔ s.index = t.index ∧ s.luaName = t.luaName ∧ s.name = t.name ∧
      (s.value == t.value) = true ∧ s.meter = t.meter := by
  show (s.index == t.index && s.luaName == t.luaName && s.name == t.name && s.value == t.value &&
    s.meter == t.meter) = true ↔ _
  simp only [Bool.and_eq_true, beq_iff_eq, and_assoc]

theorem SystemParameter.beq_self_iff {s : SystemParameter} :
    (s == s) = true ↔ s.value.isNaN = false := by
  simp [SystemParameter.beq_iff, binary64_beq_self]

theorem SystemParameters.beq_iff {s t : SystemParameters} :
    (s == t) = true ↔ List.Forall₂ (fun p q => (p == q) = true) s.entries t.entries ∧
      s.nextIndex = t.nextIndex := by
  show (s.entries == t.entries && s.nextIndex == t.nextIndex) = true ↔ _
  rw [Bool.and_eq_true, list_beq_iff, beq_iff_eq]

theorem SystemParameters.beq_self_iff {s : SystemParameters} :
    (s == s) = true ↔ ∀ p ∈ s.entries, p.value.isNaN = false := by
  rw [beq_iff, and_iff_left rfl, List.forall₂_same]
  simp only [SystemParameter.beq_self_iff]

namespace Object

variable {same : SystemParameters → SystemParameters → Prop} {a b : Object}

/-- Objects are equal exactly if they are alike and their system parameters are equal. -/
theorem beq_iff_alike : (a == b) = true ↔ a.Alike (fun s t => (s == t) = true) b := by
  show (a.name == b.name && a.eplanName == b.eplanName && a.level == b.level &&
    a.basicName == b.basicName && a.bindingName == b.bindingName && a.isPid == b.isPid &&
    a.owner == b.owner && a.operations == b.operations && a.equipment == b.equipment &&
    a.aggregateParameters == b.aggregateParameters && a.mainParameter == b.mainParameter &&
    a.groups == b.groups && a.systemParameters == b.systemParameters) = true ↔ _
  simp only [alike_iff, Bool.and_eq_true, beq_iff_eq, and_assoc, list_beq_iff, option_beq_iff,
    Parameter.beq_iff_alike, Operation.beq_iff_alike]

end Object

/-! ## Copies -/

theorem Parameter.alike_hold_left {p q : Parameter} (holder : Option Handle) :
    (p.hold holder).Alike q ↔ p.Alike q := by
  simp only [Parameter.alike_iff, Parameter.hold]

theorem Parameter.alike_hold_right {p q : Parameter} (holder : Option Handle) :
    p.Alike (q.hold holder) ↔ p.Alike q := by
  simp only [Parameter.alike_iff, Parameter.hold]

theorem Operation.alike_hold_left {a b : Operation} (holder : Option Handle) :
    (a.hold holder).Alike b ↔ a.Alike b := by
  simp only [Operation.alike_iff, Operation.hold, List.forall₂_map_left_iff,
    Parameter.alike_hold_left]

theorem Operation.alike_hold_right {a b : Operation} (holder : Option Handle) :
    a.Alike (b.hold holder) ↔ a.Alike b := by
  simp only [Operation.alike_iff, Operation.hold, List.forall₂_map_right_iff,
    Parameter.alike_hold_right]

theorem Parameter.alike_rfl {p : Parameter} : p.Alike p := ⟨rfl, rfl, rfl, rfl, rfl, rfl⟩

theorem Operation.alike_rfl {a : Operation} : a.Alike a :=
  ⟨rfl, rfl, rfl, List.forall₂_same.mpr fun _ _ => Parameter.alike_rfl⟩

theorem Parameter.alike_of_common {p q r : Parameter} (hp : p.Alike r) (hq : q.Alike r) :
    p.Alike q where
  kind := hp.kind.trans hq.kind.symm
  luaName := hp.luaName.trans hq.luaName.symm
  name := hp.name.trans hq.name.symm
  value := hp.value.trans hq.value.symm
  defaultValue := hp.defaultValue.trans hq.defaultValue.symm
  disabled := hp.disabled.trans hq.disabled.symm

theorem Operation.alike_of_common {a b c : Operation} (ha : a.Alike c) (hb : b.Alike c) :
    a.Alike b where
  luaName := ha.luaName.trans hb.luaName.symm
  name := ha.name.trans hb.name.symm
  position := ha.position.trans hb.position.symm
  properties := forall₂_of_common ha.properties hb.properties Parameter.alike_of_common

namespace AlikeLemmas

theorem rel_map_hold_left {p q : Option Parameter} (holder : Option Handle) :
    Option.Rel Parameter.Alike (p.map (·.hold holder)) q ↔ Option.Rel Parameter.Alike p q := by
  cases p <;> cases q <;> simp [Parameter.alike_hold_left]

theorem rel_map_hold_right {p q : Option Parameter} (holder : Option Handle) :
    Option.Rel Parameter.Alike p (q.map (·.hold holder)) ↔ Option.Rel Parameter.Alike p q := by
  cases p <;> cases q <;> simp [Parameter.alike_hold_right]

end AlikeLemmas

namespace Object

variable {same : SystemParameters → SystemParameters → Prop} {a b : Object}

/-- An object is like itself as soon as its system parameters are. -/
theorem alike_self (h : same a.systemParameters a.systemParameters) : a.Alike same a where
  name := rfl
  eplanName := rfl
  level := rfl
  basicName := rfl
  bindingName := rfl
  isPid := rfl
  owner := rfl
  operations := List.forall₂_same.mpr fun _ _ => Operation.alike_rfl
  equipment := List.forall₂_same.mpr fun _ _ => Parameter.alike_rfl
  aggregateParameters := List.forall₂_same.mpr fun _ _ => Parameter.alike_rfl
  mainParameter := by
    cases a.mainParameter with
    | none => exact .none
    | some p => exact .some Parameter.alike_rfl
  groups := rfl
  systemParameters := h

/-- What is like an object is like its copies. -/
theorem alike_copy_left (handle : Handle) : (a.copy handle).Alike same b ↔ a.Alike same b := by
  simp only [alike_iff, copy, List.forall₂_map_left_iff, Operation.alike_hold_left,
    Parameter.alike_hold_left, rel_map_hold_left]

theorem alike_copy_right (handle : Handle) : a.Alike same (b.copy handle) ↔ a.Alike same b := by
  simp only [alike_iff, copy, List.forall₂_map_right_iff, Operation.alike_hold_right,
    Parameter.alike_hold_right, rel_map_hold_right]

theorem Alike.setOwner (h : a.Alike same b) (owner : Option Owner) :
    (a.setOwner owner).Alike same (b.setOwner owner) :=
  { h with owner := rfl, groups := congrArg (List.map (Group.setOwner owner)) h.groups }

theorem Alike.copyFor (h : a.Alike same b) (handle handle' : Handle) (owner : Owner) :
    (a.copyFor handle owner).Alike same (b.copyFor handle' owner) :=
  ((alike_copy_left handle).mpr ((alike_copy_right handle').mpr h)).setOwner _

/-- Only the last owner counts. -/
theorem setOwner_setOwner (owner owner' : Option Owner) (o : Object) :
    (o.setOwner owner).setOwner owner' = o.setOwner owner' := by
  simp [setOwner, Group.setOwner, Function.comp_def]

/-- Objects that are like one and the same object are alike. -/
theorem alike_of_common {c : Object} (ha : a.Alike Eq c) (hb : b.Alike Eq c) : a.Alike Eq b where
  name := ha.name.trans hb.name.symm
  eplanName := ha.eplanName.trans hb.eplanName.symm
  level := ha.level.trans hb.level.symm
  basicName := ha.basicName.trans hb.basicName.symm
  bindingName := ha.bindingName.trans hb.bindingName.symm
  isPid := ha.isPid.trans hb.isPid.symm
  owner := ha.owner.trans hb.owner.symm
  operations := forall₂_of_common ha.operations hb.operations Operation.alike_of_common
  equipment := forall₂_of_common ha.equipment hb.equipment Parameter.alike_of_common
  aggregateParameters :=
    forall₂_of_common ha.aggregateParameters hb.aggregateParameters Parameter.alike_of_common
  mainParameter := rel_of_common ha.mainParameter hb.mainParameter Parameter.alike_of_common
  groups := ha.groups.trans hb.groups.symm
  systemParameters := ha.systemParameters.trans hb.systemParameters.symm

/-- Objects that are alike are equal exactly if there is no NaN among their system parameters. -/
theorem beq_iff_of_alike (h : a.Alike Eq b) :
    (a == b) = true ↔ ∀ s ∈ b.systemParameters.entries, s.value.isNaN = false := by
  rw [beq_iff_alike, ← SystemParameters.beq_self_iff]
  constructor
  · intro equal
    have same := equal.systemParameters
    rwa [h.systemParameters] at same
  · intro same
    refine { h with systemParameters := ?_ }
    rwa [h.systemParameters]

/-- A copy is equal to its source exactly if the source is equal to itself, as it is without a NaN
among its system parameters. -/
theorem copy_beq_self_iff (handle : Handle) (o : Object) :
    (o.copy handle == o) = true ↔ ∀ s ∈ o.systemParameters.entries, s.value.isNaN = false :=
  beq_iff_of_alike ((alike_copy_left handle).mpr (alike_self rfl))

end Object

end Plant
