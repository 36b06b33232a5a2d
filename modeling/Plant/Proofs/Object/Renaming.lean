import Mathlib.Logic.Equiv.Defs
import Plant.Proofs.Lua.Congruence
import Plant.Proofs.Object.Linked

/-!
# Renamings of handles

Handles are compared and copied, but nothing that is shown depends on their numbers. A renaming
replaces the handle of an object and the handles that its parts point back to.

Results:
1. `rename_eq_self`: an object whose handle stays, and that is all of one piece, stays as it is.
2. `rename_copy`, `rename_copyFor`: a copy that is made under a renamed handle is renamed.
3. `alike_rename`, `sameTexts_rename`: a renamed object looks the same.
-/
namespace Plant

variable (σ : Equiv.Perm Handle)

/-! ## Definitions -/

/-- The parameter with the handle that it points back to renamed. -/
def Parameter.rename (p : Parameter) : Parameter := p.hold (p.holder.map σ)

/-- The operation with the handles that it and its properties point back to renamed. -/
def Operation.rename (op : Operation) : Operation :=
  { op with holder := op.holder.map σ, properties := op.properties.map (·.rename σ) }

namespace Object

/-- The object with its handle and all handles in its parts renamed. -/
def rename (o : Object) : Object :=
  { o with
    handle := σ o.handle
    operations := o.operations.map (·.rename σ)
    equipment := o.equipment.map (·.rename σ)
    aggregateParameters := o.aggregateParameters.map (·.rename σ)
    mainParameter := o.mainParameter.map (·.rename σ) }

/-- The handles that the parts of an object point back to, in the order of the parts. -/
def holders (o : Object) : List (Option Handle) :=
  o.operations.flatMap (fun op => op.holder :: op.properties.map (·.holder)) ++
    o.equipment.map (·.holder) ++ o.aggregateParameters.map (·.holder) ++
    o.mainParameter.toList.map (·.holder)

end Object

variable {σ} {h : Handle}

/-! ## Parts -/

theorem map_eq_self {α : Type} {f : α → α} {as : List α} (h : ∀ a ∈ as, f a = a) :
    as.map f = as :=
  (List.map_congr_left h).trans (List.map_id' as)

theorem Parameter.HeldBy.rename_eq {p : Parameter} (hp : p.HeldBy h) (fixed : σ h = h) :
    p.rename σ = p := by
  rw [rename, hp, Option.map_some, fixed, ← hp]
  rfl

theorem Operation.HeldBy.rename_eq {op : Operation} (hop : op.HeldBy h) (fixed : σ h = h) :
    op.rename σ = op := by
  have properties : op.properties.map (·.rename σ) = op.properties :=
    map_eq_self fun p hp => (hop.properties p hp).rename_eq fixed
  rw [rename, properties, hop.holder, Option.map_some, fixed, ← hop.holder]

theorem Parameter.rename_hold (p : Parameter) (handle : Handle) :
    (p.hold handle).rename σ = p.hold (σ handle) := rfl

theorem Operation.rename_hold (op : Operation) (handle : Handle) :
    (op.hold handle).rename σ = op.hold (σ handle) := by
  rw [rename, hold, hold, List.map_map]
  rfl

theorem Parameter.alike_rename (p : Parameter) : (p.rename σ).Alike p :=
  (Parameter.alike_hold_left _).mpr Parameter.alike_rfl

theorem Operation.alike_rename (op : Operation) : (op.rename σ).Alike op where
  luaName := rfl
  name := rfl
  position := rfl
  properties :=
    List.forall₂_map_left_iff.mpr (List.forall₂_same.mpr fun p _ => p.alike_rename)

/-! ## Objects -/

namespace Object

theorem rename_eq_self {o : Object} (ho : o.Linked) (fixed : σ o.handle = o.handle) :
    o.rename σ = o := by
  have operations : o.operations.map (·.rename σ) = o.operations :=
    map_eq_self fun op hop => (ho.operations op hop).rename_eq fixed
  have equipment : o.equipment.map (·.rename σ) = o.equipment :=
    map_eq_self fun p hp => (ho.equipment p hp).rename_eq fixed
  have aggregateParameters : o.aggregateParameters.map (·.rename σ) = o.aggregateParameters :=
    map_eq_self fun p hp => (ho.aggregateParameters p hp).rename_eq fixed
  have mainParameter : o.mainParameter.map (·.rename σ) = o.mainParameter :=
    (Option.map_congr fun p hp => (ho.mainParameter p hp).rename_eq fixed).trans Option.map_id'
  rw [rename, fixed, operations, equipment, aggregateParameters, mainParameter]

/-- The parts of a copy point to its handle, whatever those of its source pointed to. -/
theorem rename_copy (handle : Handle) (o : Object) :
    (o.copy handle).rename σ = o.copy (σ handle) := by
  have parameters (ps : List Parameter) :
      (ps.map (·.hold handle)).map (·.rename σ) = ps.map (·.hold (σ handle)) :=
    List.map_map.trans rfl
  have operations (ops : List Operation) :
      (ops.map (·.hold handle)).map (·.rename σ) = ops.map (·.hold (σ handle)) := by
    rw [List.map_map]
    exact List.map_congr_left fun op _ => op.rename_hold handle
  rw [rename, copy, operations, parameters, parameters, Option.map_map]
  rfl

theorem rename_copyFor (handle : Handle) (owner : Owner) (o : Object) :
    (o.copyFor handle owner).rename σ = o.copyFor (σ handle) owner :=
  congrArg (·.setOwner owner) (rename_copy handle o)

theorem holders_rename (o : Object) : (o.rename σ).holders = o.holders.map (Option.map σ) := by
  have parameters (ps : List Parameter) : (ps.map (·.rename σ)).map (·.holder) =
      (ps.map (·.holder)).map (Option.map σ) := by
    rw [List.map_map, List.map_map]
    rfl
  have operations (op : Operation) :
      (op.rename σ).holder :: (op.rename σ).properties.map (·.holder) =
        (op.holder :: op.properties.map (·.holder)).map (Option.map σ) :=
    congrArg _ (parameters op.properties)
  have main : (o.rename σ).mainParameter.toList = o.mainParameter.toList.map (·.rename σ) := by
    show (o.mainParameter.map _).toList = _
    cases o.mainParameter <;> rfl
  simp only [holders, List.map_append, List.map_flatMap, ← operations, ← parameters, main]
  rw [rename, List.flatMap_map]

theorem alike_rename (o : Object) : (o.rename σ).Alike Eq o where
  name := rfl
  eplanName := rfl
  level := rfl
  basicName := rfl
  bindingName := rfl
  isPid := rfl
  owner := rfl
  operations := List.forall₂_map_left_iff.mpr (List.forall₂_same.mpr fun op _ => op.alike_rename)
  equipment := List.forall₂_map_left_iff.mpr (List.forall₂_same.mpr fun p _ => p.alike_rename)
  aggregateParameters :=
    List.forall₂_map_left_iff.mpr (List.forall₂_same.mpr fun p _ => p.alike_rename)
  mainParameter := by
    show Option.Rel _ (o.mainParameter.map _) o.mainParameter
    cases o.mainParameter with
    | none => exact .none
    | some p => exact .some p.alike_rename
  groups := rfl
  systemParameters := rfl

/-- The texts do not depend on system parameters, so those may hold a NaN. -/
theorem sameTexts_rename (o : Object) : Lua.SameTexts (o.rename σ) o := by
  have bare : ({ o with systemParameters := .empty }.rename σ).Matches
      { o with systemParameters := .empty } := { alike_rename _ with
    systemParameters := rfl }
  exact { Lua.sameTexts_of_matches bare with }

end Object

end Plant
