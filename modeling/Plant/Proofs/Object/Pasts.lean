import Plant.Object.Edit
import Plant.Proofs.Catalog.Definitions
import Plant.Proofs.Parameter

/-!
# The pasts of the parameters of an object

Beside an object, or an operation that is not part of one yet, the past of every parameter can be
kept, list by list. A parameter that is added has a past from then on, and an edit goes into the
past of the parameter that it changes. A property that comes from elsewhere brings its past with it,
and a copy has the pasts of its source.

Results:
1. `Operation.Pasts.Of.act?`: one change of an operation.
2. `Object.Pasts.of_build`: the pasts of what is built from a definition.
3. `Object.Pasts.Of.edit`, `Object.Pasts.Of.operate`, `Object.Pasts.Of.copy`: one change of an
   object, and a copy.
-/
namespace Plant

open Parameter

/-! ## Definitions -/

/-- The pasts of the parameters after a change of one of them. -/
def Parameter.Past.update? (which : Entry) (e : Parameter.Edit) (pasts : List Past) :
    Option (List Past) :=
  which.update? Past.luaName (fun past => some (past.andThen e)) pasts

/-- The pasts of the properties of an operation, with the name that the operation is found by. -/
structure Operation.Pasts where
  luaName : String
  properties : List Past
deriving DecidableEq, Repr

/-- The pasts of the parameters of an object. -/
structure Object.Pasts where
  operations : List Operation.Pasts
  equipment : List Past
  aggregateParameters : List Past
  mainParameter : Option Past
deriving DecidableEq, Repr

/-- A change of an operation that may bring in a property with its past. -/
inductive Operation.Deed where
  | bring (past : Past)
  | edit (e : Operation.Edit)

/-- The change of the operation itself. -/
def Operation.Deed.toEdit : Deed → Operation.Edit
  | bring past => .addProperty past.parameter
  | edit e => e

namespace Operation.Pasts

/-- The pasts in an operation without properties. -/
def new (luaName : String) : Pasts := { luaName, properties := [] }

/-- The pasts with that of one more property. -/
def bring (past : Past) (a : Pasts) : Pasts := { a with properties := a.properties ++ [past] }

/-- The pasts after a change, if it finds what it is to change. -/
def act? : Deed → Pasts → Option Pasts
  | .bring past, a => some (a.bring past)
  | .edit (.addProperty p), a => some (a.bring (.ofParameter p))
  | .edit (.editProperty which e), a =>
    (Past.update? which e a.properties).map fun properties => { a with properties }

/-- The past of the first property of that name. -/
def property? (luaName : String) (a : Pasts) : Option Past :=
  a.properties.find? (·.luaName == luaName)

/-- The pasts are those of the properties of the operation: each is related to its property. -/
structure Of (R : Past → Parameter → Prop) (a : Pasts) (op : Operation) : Prop where
  luaName : a.luaName = op.luaName
  properties : List.Forall₂ R a.properties op.properties

end Operation.Pasts

/-- The operation after changes; one that does not find what it is to change changes nothing. -/
def Operation.actAll (ds : List Deed) (op : Operation) : Operation :=
  ds.foldl (fun op d => (op.edit? d.toEdit).getD op) op

/-- The pasts after changes. -/
def Operation.Pasts.actAll (ds : List Deed) (a : Pasts) : Pasts :=
  ds.foldl (fun a d => (a.act? d).getD a) a

namespace Object.Pasts

/-- The pasts in an object without parts. -/
def empty : Pasts :=
  { operations := [], equipment := [], aggregateParameters := [], mainParameter := none }

/-- The pasts with those of one more operation; the first one comes after a placeholder. -/
def addOperation (a : Operation.Pasts) (o : Pasts) : Pasts :=
  let before := if o.operations.isEmpty then [.new ""] else o.operations
  { o with operations := before ++ [a] }

/-- The pasts after a change of an operation. -/
def operate (which : Entry) (d : Operation.Deed) (o : Pasts) : Pasts :=
  { o with
    operations :=
      (which.update? Operation.Pasts.luaName (·.act? d) o.operations).getD o.operations }

/-- The pasts after an edit. -/
def edit : Object.Edit → Pasts → Pasts
  | .addOperation luaName _ _, o => o.addOperation (.new luaName)
  | .editOperation which e, o => o.operate which (.edit e)
  | .addEquipment luaName name text, o =>
    { o with equipment := o.equipment ++ [.made .equipment luaName name text] }
  | .editEquipment which e, o =>
    { o with equipment := (Past.update? which e o.equipment).getD o.equipment }
  | .addActive luaName name text, o =>
    { o with aggregateParameters := o.aggregateParameters ++ [.made .active luaName name text] }
  | .addActiveBool luaName name text, o =>
    { o with aggregateParameters := o.aggregateParameters ++ [.made .activeBool luaName name text] }
  | .editAggregate which e, o =>
    { o with
      aggregateParameters :=
        (Past.update? which e o.aggregateParameters).getD o.aggregateParameters }
  | .setMain luaName name text, o =>
    { o with mainParameter := some (.made .mainAggregate luaName name text) }
  | .editMain e, o => { o with mainParameter := o.mainParameter.map (·.andThen e) }
  | _, o => o

/-- The past of the first property of a name in the first operation of a name. -/
def property? (operation luaName : String) (o : Pasts) : Option Past :=
  (o.operations.find? (·.luaName == operation)).bind (·.property? luaName)

/-- The pasts are those of the parameters of the object: each is related to its parameter. -/
structure Of (R : Past → Parameter → Prop) (a : Pasts) (o : Object) : Prop where
  operations : List.Forall₂ (Operation.Pasts.Of R) a.operations o.operations
  equipment : List.Forall₂ R a.equipment o.equipment
  aggregateParameters : List.Forall₂ R a.aggregateParameters o.aggregateParameters
  mainParameter : Option.Rel R a.mainParameter o.mainParameter

end Object.Pasts

namespace Catalog

/-- The past of the parameter that a definition defines. -/
def ActiveDefinition.past (d : ActiveDefinition) : Past :=
  .made d.type.kind d.luaName d.name d.defaultValue

/-- The pasts of the properties that a definition defines. -/
def OperationDefinition.pasts (d : OperationDefinition) : Operation.Pasts :=
  { luaName := d.luaName, properties := d.properties.map ActiveDefinition.past }

/-- The pasts of the parameters that a definition defines, with no operations before the
placeholder. -/
def Definition.pasts (d : Definition) : Object.Pasts where
  operations :=
    if d.operations.isEmpty then [] else .new "" :: d.operations.map OperationDefinition.pasts
  equipment := d.equipment.map fun p => .made .equipment p.luaName p.name p.value
  aggregateParameters := d.aggregateParameters.map ActiveDefinition.past
  mainParameter := d.mainParameter.map fun p => .made .mainAggregate p.luaName p.name p.defaultValue

end Catalog

/-! ## Lists of parameters -/

/-- A change of one of some parameters goes into its past. -/
theorem Parameter.rel_past_update? (which : Entry) (e : Parameter.Edit) {pasts : List Past}
    {ps : List Parameter} (h : List.Forall₂ Traces pasts ps) :
    Option.Rel (List.Forall₂ Traces) (Past.update? which e pasts)
      (which.update? Parameter.luaName (fun p => some (p.edit e)) ps) :=
  which.rel_update? (fun _ _ h => h.luaName) (fun _ _ h => .some (h.edit e)) h

/-- Parameters that become part of another object keep their pasts. -/
theorem Parameter.forall₂_traces_hold {pasts : List Past} {ps : List Parameter}
    (h : List.Forall₂ Traces pasts ps) (holder : Option Handle) :
    List.Forall₂ Traces pasts (ps.map (·.hold holder)) :=
  List.forall₂_map_right_iff.mpr (h.imp fun _ _ h => h.hold holder)

/-! ## Operations -/

namespace Operation.Pasts

variable {a : Pasts} {op op' : Operation} {past : Past} {p : Parameter}

theorem of_new (luaName name : String) (position : Int32) :
    Of Traces (.new luaName) (Operation.new luaName name position) := ⟨rfl, .nil⟩

namespace Of

theorem hold (h : Of Traces a op) (holder : Option Handle) : Of Traces a (op.hold holder) :=
  ⟨h.luaName, forall₂_traces_hold h.properties holder⟩

theorem bring (h : Of Traces a op) (hp : Traces past p) :
    Of Traces (a.bring past) (op.addProperty p) :=
  ⟨h.luaName, List.rel_append h.properties (.cons (hp.hold _) .nil)⟩

theorem act? (h : Of Traces a op) (d : Deed) :
    Option.Rel (Of Traces) (a.act? d) (op.edit? d.toEdit) := by
  cases d with
  | bring past => exact .some (h.bring (.parameter past))
  | edit e =>
    cases e with
    | addProperty p => exact .some (h.bring (.ofParameter p))
    | editProperty which e =>
      exact rel_map (rel_past_update? which e h.properties) fun _ _ properties =>
        ⟨h.luaName, properties⟩

theorem actAll (h : Of Traces a op) (ds : List Deed) :
    Of Traces (a.actAll ds) (op.actAll ds) := by
  induction ds generalizing a op with
  | nil => exact h
  | cons d ds ih => exact ih (rel_getD (h.act? d) h)

theorem imp {R S : Past → Parameter → Prop} (hRS : ∀ past p, R past p → S past p)
    (h : Of R a op) : Of S a op :=
  ⟨h.luaName, h.properties.imp hRS⟩

end Of

end Operation.Pasts

/-! ## Definitions of a catalog -/

theorem Catalog.ActiveDefinition.traces_past (d : ActiveDefinition) (holder : Option Handle) :
    Traces d.past (d.property.hold holder) :=
  (Traces.made ..).hold holder

theorem Catalog.OperationDefinition.of_operation (d : OperationDefinition) (handle : Handle) :
    Operation.Pasts.Of Traces d.pasts (d.operation.hold handle) := by
  rw [d.operation_eq]
  refine ⟨rfl, ?_⟩
  show List.Forall₂ _ (d.properties.map _) ((d.properties.map _).map _)
  rw [List.map_map, List.forall₂_map_left_iff]
  exact forall₂_map (fun p => p.traces_past handle) d.properties

open Catalog in
theorem Object.Pasts.of_build (d : Catalog.Definition) (handle : Handle) (level : Int32) :
    Of Traces d.pasts (d.build handle level) := by
  rw [build_eq]
  constructor
  case operations =>
    show List.Forall₂ _ (if d.operations.isEmpty then _ else _) (DefinitionLemmas.listed _ _)
    cases d.operations with
    | nil => exact .nil
    | cons op ops =>
      refine .cons ((Operation.Pasts.of_new "" "" 0).hold handle) ?_
      rw [List.forall₂_map_left_iff]
      exact forall₂_map (fun d => d.of_operation handle) (op :: ops)
  case equipment =>
    rw [Definition.pasts, List.forall₂_map_left_iff]
    exact forall₂_map (fun p => (Traces.made ..).hold handle) d.equipment
  case aggregateParameters =>
    rw [Definition.pasts, List.forall₂_map_left_iff]
    exact forall₂_map (fun p => p.traces_past handle) d.aggregateParameters
  case mainParameter =>
    show Option.Rel _ (d.mainParameter.map _) (d.mainParameter.map _)
    cases d.mainParameter with
    | none => exact .none
    | some p => exact .some ((Traces.made ..).hold handle)

/-! ## Objects -/

namespace Object.Pasts

variable {a : Pasts} {o o' : Object}

theorem of_new (handle : Handle) (owner : Option Owner) :
    Of Traces empty (Object.new handle owner) :=
  ⟨.nil, .nil, .nil, .none⟩

theorem traces_part (kind : ParameterKind) (luaName name text : String) (o : Object) :
    Traces (.made kind luaName name text) (o.part kind luaName name text) :=
  (Traces.made ..).hold o.handle

theorem rel_getD_of_eq_some {α β : Type} {R : α → β → Prop} {a : Option α} {b : Option β} {y : β}
    (h : Option.Rel R a b) (hy : b = some y) (d : α) : R (a.getD d) y := by
  obtain ⟨x, rfl, hxy⟩ := exists_rel_of_eq_some h hy
  exact hxy

namespace Of

theorem addOperation (h : Of Traces a o) {b : Operation.Pasts} {op : Operation}
    (hop : Operation.Pasts.Of Traces b op) : Of Traces (a.addOperation b) (o.addOperation op) := by
  refine { h with operations := List.rel_append ?_ (.cons (hop.hold _) .nil) }
  rw [isEmpty_eq_of_forall₂ h.operations]
  split
  · exact .cons ((Operation.Pasts.of_new "" "" 0).hold _) .nil
  · exact h.operations

/-- What is done to an operation is done to its pasts. -/
theorem operate (h : Of Traces a o) {which : Entry} {d : Operation.Deed} {e : Operation.Edit}
    (hd : ∀ b op, Operation.Pasts.Of Traces b op →
      Option.Rel (Operation.Pasts.Of Traces) (b.act? d) (op.edit? e))
    (he : o.edit? (.editOperation which e) = some o') : Of Traces (a.operate which d) o' := by
  obtain ⟨operations, hops, rfl⟩ := Option.map_eq_some_iff.mp he
  have rel := which.rel_update? (fun _ _ h => h.luaName) hd h.operations
  exact { h with operations := rel_getD_of_eq_some rel hops _ }

/-- An edit goes into the past of the parameter that it changes, if there is one. -/
theorem edit (h : Of Traces a o) {e : Object.Edit} (he : o.edit? e = some o') :
    Of Traces (a.edit e) o' := by
  cases e with
  | addOperation luaName name position =>
    cases he
    exact h.addOperation (Operation.Pasts.of_new luaName name position)
  | editOperation which e => exact h.operate (fun _ _ h => h.act? (.edit e)) he
  | addEquipment luaName name text =>
    cases he
    exact { h with equipment := List.rel_append h.equipment (.cons (traces_part ..) .nil) }
  | editEquipment which e =>
    obtain ⟨ps, hps, rfl⟩ := Option.map_eq_some_iff.mp he
    exact { h with
      equipment := rel_getD_of_eq_some (rel_past_update? which e h.equipment) hps _ }
  | addActive luaName name text | addActiveBool luaName name text =>
    cases he
    exact { h with
      aggregateParameters :=
        List.rel_append h.aggregateParameters (.cons (traces_part ..) .nil) }
  | editAggregate which e =>
    obtain ⟨ps, hps, rfl⟩ := Option.map_eq_some_iff.mp he
    exact { h with
      aggregateParameters :=
        rel_getD_of_eq_some (rel_past_update? which e h.aggregateParameters) hps _ }
  | setMain luaName name text =>
    cases he
    exact { h with mainParameter := .some (traces_part ..) }
  | editMain e =>
    obtain ⟨p, hp, rfl⟩ := Option.map_eq_some_iff.mp he
    have main := h.mainParameter
    rw [hp] at main
    exact { h with mainParameter := rel_map main fun _ _ h => h.edit e }
  | setGroup luaName value | setSystem luaName value =>
    obtain ⟨_, -, rfl⟩ := Option.map_eq_some_iff.mp he
    exact { h with }
  | _ =>
    cases he
    exact { h with }

theorem copy (h : Of Traces a o) (handle : Handle) : Of Traces a (o.copy handle) where
  operations := List.forall₂_map_right_iff.mpr (h.operations.imp fun _ _ h => h.hold handle)
  equipment := forall₂_traces_hold h.equipment handle
  aggregateParameters := forall₂_traces_hold h.aggregateParameters handle
  mainParameter := by
    have main := rel_map (f := id) h.mainParameter fun _ _ (h : Traces _ _) => h.hold handle
    rwa [Option.map_id] at main

theorem copyFor (h : Of Traces a o) (handle : Handle) (owner : Owner) :
    Of Traces a (o.copyFor handle owner) :=
  { h.copy handle with }

theorem rel_property? (h : Of Traces a o) (operation luaName : String) :
    Option.Rel Traces (a.property? operation luaName)
      ((o.operation? operation).bind (·.property? luaName)) := by
  have found : Option.Rel (Operation.Pasts.Of Traces)
      (a.operations.find? (·.luaName == operation)) (o.operation? operation) :=
    rel_find? (fun _ _ h => by rw [h.luaName]) h.operations
  rw [Pasts.property?]
  generalize a.operations.find? _ = b, o.operation? operation = op at found
  cases found with
  | none => exact .none
  | some h => exact rel_find? (fun _ _ h => by rw [h.luaName]) h.properties

theorem imp {R S : Past → Parameter → Prop} (hRS : ∀ past p, R past p → S past p)
    (h : Of R a o) : Of S a o where
  operations := h.operations.imp fun _ _ h => h.imp hRS
  equipment := h.equipment.imp hRS
  aggregateParameters := h.aggregateParameters.imp hRS
  mainParameter := by
    have main := rel_map (f := id) (g := id) h.mainParameter hRS
    rwa [Option.map_id, Option.map_id] at main

end Of

end Object.Pasts

end Plant
