import Plant.Object.Edit
import Plant.Proofs.Entry

/-!
# Links

The parts of an object point back to it: operations, properties and parameters by its handle, groups
by its owner. Every builder gives its part the right link, every edit keeps the links that there
are, and a copy turns all of them to the new handle, whatever they were before.

Results:
1. `Operation.HeldBy.edit`: an operation that is edited, also by adding a property of another
   object, is held as before.
2. `Object.linked_new`, `Object.Linked.edit`, `Object.Linked.copy`: the links hold in new objects
   and are kept by edits and copies.
-/
namespace Plant

/-- The parameter is part of the object with that handle. -/
def Parameter.HeldBy (h : Handle) (p : Parameter) : Prop := p.holder = some h

/-- The operation and all its properties are part of the object with that handle. -/
structure Operation.HeldBy (h : Handle) (op : Operation) : Prop where
  holder : op.holder = some h
  properties : ∀ p ∈ op.properties, p.HeldBy h

/-- All parts of the object point back to it, and its groups to its owner. -/
structure Object.Linked (o : Object) : Prop where
  operations : ∀ op ∈ o.operations, op.HeldBy o.handle
  equipment : ∀ p ∈ o.equipment, p.HeldBy o.handle
  aggregateParameters : ∀ p ∈ o.aggregateParameters, p.HeldBy o.handle
  mainParameter : ∀ p ∈ o.mainParameter, p.HeldBy o.handle
  groups : ∀ g ∈ o.groups, g.owner = o.owner

variable {h : Handle}

/-! ## Parameters and operations -/

theorem Parameter.heldBy_hold (p : Parameter) : (p.hold (some h)).HeldBy h := rfl

theorem Parameter.HeldBy.edit {p : Parameter} (hp : p.HeldBy h) (e : Parameter.Edit) :
    (p.edit e).HeldBy h := by
  rcases e with ⟨_ | text, _ | disabled⟩ <;> exact hp

theorem Parameter.HeldBy.edit_some {p q : Parameter} {e : Parameter.Edit}
    (he : some (p.edit e) = some q) (hp : p.HeldBy h) : q.HeldBy h := by
  cases he
  exact hp.edit e

theorem Operation.heldBy_hold (op : Operation) : (op.hold (some h)).HeldBy h where
  holder := rfl
  properties := by
    intro p hp
    obtain ⟨q, -, rfl⟩ := List.mem_map.mp hp
    exact q.heldBy_hold

/-- The property may come from anywhere: it becomes part of the operation's object. -/
theorem Operation.HeldBy.addProperty {op : Operation} (hop : op.HeldBy h) (p : Parameter) :
    (op.addProperty p).HeldBy h where
  holder := hop.holder
  properties := by
    intro q hq
    rcases List.mem_append.mp hq with hq | hq
    · exact hop.properties q hq
    · cases List.mem_singleton.mp hq
      exact hop.holder

theorem Operation.HeldBy.edit {op op' : Operation} {e : Operation.Edit} (he : op.edit? e = some op')
    (hop : op.HeldBy h) : op'.HeldBy h := by
  cases e with
  | addProperty p =>
    cases he
    exact hop.addProperty p
  | editProperty which e =>
    obtain ⟨ps, hps, rfl⟩ := Option.map_eq_some_iff.mp he
    exact ⟨hop.holder,
      Entry.forall_of_update? (fun _ _ he hp => hp.edit_some he) hps hop.properties⟩

/-! ## Objects -/

namespace Object

theorem linked_new (handle : Handle) (owner : Option Owner) : (new handle owner).Linked := by
  constructor <;> simp [new]

theorem heldBy_part (o : Object) (kind : ParameterKind) (luaName name text : String) :
    (o.part kind luaName name text).HeldBy o.handle := rfl

/-- With a new part at its end a list of parts is a list of parts again. -/
theorem forall_mem_append_singleton {α : Type} {P : α → Prop} {as : List α} {a : α}
    (has : ∀ b ∈ as, P b) (ha : P a) : ∀ b ∈ as ++ [a], P b :=
  List.forall_mem_append.mpr ⟨has, List.forall_mem_singleton.mpr ha⟩

namespace Linked

variable {o o' : Object}

theorem setOwner (ho : o.Linked) (owner : Option Owner) : (o.setOwner owner).Linked where
  operations := ho.operations
  equipment := ho.equipment
  aggregateParameters := ho.aggregateParameters
  mainParameter := ho.mainParameter
  groups := by
    intro g hg
    obtain ⟨g, -, rfl⟩ := List.mem_map.mp hg
    rfl

theorem addOperation (ho : o.Linked) (op : Operation) : (o.addOperation op).Linked where
  operations := by
    refine forall_mem_append_singleton ?_ op.heldBy_hold
    split
    · exact List.forall_mem_singleton.mpr Operation.placeholder.heldBy_hold
    · exact ho.operations
  equipment := ho.equipment
  aggregateParameters := ho.aggregateParameters
  mainParameter := ho.mainParameter
  groups := ho.groups

theorem addGroup (ho : o.Linked) (luaName name : String) (admission : Admission) :
    (o.addGroup luaName name admission).Linked :=
  { ho with groups := forall_mem_append_singleton ho.groups rfl }

theorem setGroup? {luaName value : String} (ho : o.Linked)
    (he : o.setGroup? luaName value = some o') : o'.Linked := by
  obtain ⟨gs, hgs, rfl⟩ := Option.map_eq_some_iff.mp he
  refine { ho with groups := ?_ }
  refine forall_of_touched ?_ (EntryLemmas.forall₂_of_updateFirst? hgs) ho.groups
  intro g g' hg howner
  cases hg
  exact howner

/-- No edit breaks a link. -/
theorem edit {e : Object.Edit} (ho : o.Linked) (he : o.edit? e = some o') : o'.Linked := by
  cases e with
  | setName name | setEplanName name | setLevel number | setBasicName name | setBindingName name
  | setPid isPid | addSystem luaName name value meter =>
    cases he
    exact { ho with }
  | setSystem luaName value =>
    obtain ⟨s, -, rfl⟩ := Option.map_eq_some_iff.mp he
    exact { ho with }
  | setOwner owner =>
    cases he
    exact ho.setOwner owner
  | addOperation luaName name position =>
    cases he
    exact ho.addOperation _
  | editOperation which e =>
    obtain ⟨ops, hops, rfl⟩ := Option.map_eq_some_iff.mp he
    exact { ho with
      operations := Entry.forall_of_update? (fun _ _ he hop => hop.edit he) hops ho.operations }
  | addEquipment luaName name text =>
    cases he
    exact { ho with equipment := forall_mem_append_singleton ho.equipment (o.heldBy_part ..) }
  | editEquipment which e =>
    obtain ⟨ps, hps, rfl⟩ := Option.map_eq_some_iff.mp he
    exact { ho with
      equipment := Entry.forall_of_update? (fun _ _ he hp => hp.edit_some he) hps ho.equipment }
  | addActive luaName name text | addActiveBool luaName name text =>
    cases he
    exact { ho with
      aggregateParameters :=
        forall_mem_append_singleton ho.aggregateParameters (o.heldBy_part ..) }
  | editAggregate which e =>
    obtain ⟨ps, hps, rfl⟩ := Option.map_eq_some_iff.mp he
    exact { ho with
      aggregateParameters :=
        Entry.forall_of_update? (fun _ _ he hp => hp.edit_some he) hps ho.aggregateParameters }
  | setMain luaName name text =>
    cases he
    refine { ho with mainParameter := ?_ }
    intro p hp
    cases hp
    exact o.heldBy_part ..
  | editMain e =>
    obtain ⟨p, hp, rfl⟩ := Option.map_eq_some_iff.mp he
    refine { ho with mainParameter := ?_ }
    intro q hq
    cases hq
    exact (ho.mainParameter p hp).edit e
  | addGroup luaName name admission =>
    cases he
    exact ho.addGroup luaName name admission
  | setGroup luaName value => exact ho.setGroup? he

/-- A copy needs no links in its source but those of the groups. -/
theorem copy (ho : o.Linked) (handle : Handle) : (o.copy handle).Linked where
  operations := by
    intro op hop
    obtain ⟨op, -, rfl⟩ := List.mem_map.mp hop
    exact op.heldBy_hold
  equipment := by
    intro p hp
    obtain ⟨p, -, rfl⟩ := List.mem_map.mp hp
    exact p.heldBy_hold
  aggregateParameters := by
    intro p hp
    obtain ⟨p, -, rfl⟩ := List.mem_map.mp hp
    exact p.heldBy_hold
  mainParameter := by
    intro p hp
    obtain ⟨p, -, rfl⟩ := Option.map_eq_some_iff.mp hp
    exact p.heldBy_hold
  groups := ho.groups

end Linked

/-! ## Handles -/

/-- No edit changes the handle of an object. -/
theorem handle_of_edit? {o o' : Object} {e : Edit} (he : o.edit? e = some o') :
    o'.handle = o.handle := by
  cases e with
  | editOperation which e | editEquipment which e | editAggregate which e | editMain e
  | setGroup luaName value | setSystem luaName value =>
    obtain ⟨_, _, rfl⟩ := Option.map_eq_some_iff.mp he
    rfl
  | _ =>
    cases he
    rfl

end Object

end Plant
