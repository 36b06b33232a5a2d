import Plant.Lua.ObjectInfo
import Plant.Lua.Operations
import Plant.Proofs.Object.Congruence

/-!
# Generated code of equal objects

Generated code does not depend on handles or on system parameters, so it is the same for equal
objects, as long as the modes are the same but for the objects that their operations are part of.
With the edits this makes equal objects indistinguishable in the future as well, and a copy can
stand in for its source.

Results:
1. `sameTexts_of_matches`: what is written for equal objects is the same.
2. `indistinguishable_editAll`: equal objects are indistinguishable after the same edits.
-/
namespace Plant

/-! ## Modes -/

/-- Modes that are the same but for the objects that their operations are part of. -/
structure Mode.Alike (m n : Mode) : Prop where
  operation : m.operation.Alike n.operation
  number : m.number = n.number
  steps : m.steps = n.steps

/-- How the operation at an index is used: the number of its mode, and the steps. -/
structure Use where
  index : Nat
  number : UInt32
  steps : List Step

/-- The modes of an object for the uses of its operations. An index without an operation has
none. -/
def Object.modes (uses : List Use) (o : Object) : List Mode :=
  uses.filterMap fun u => o.operations[u.index]?.map fun operation =>
    { operation, number := u.number, steps := u.steps }

theorem Object.alike_modes {a b : Object} (h : a.Matches b) (uses : List Use) :
    List.Forall₂ Mode.Alike (a.modes uses) (b.modes uses) := by
  have same : List.Forall₂ Eq uses uses := List.forall₂_same.mpr fun _ _ => rfl
  refine List.rel_filterMap ?_ same
  rintro u - rfl
  exact rel_map (rel_getElem? h.operations u.index) fun _ _ operation => ⟨operation, rfl, rfl⟩

namespace Lua

/-! ## Parameters -/

theorem assignment?_congr {p q : Parameter} (h : p.Alike q) : assignment? p = assignment? q := by
  have value : value? p = value? q := by
    unfold value?
    rw [h.kind, h.value]
  rw [assignment?, assignment?, Parameter.isEmpty, Parameter.isEmpty, value, h.luaName, h.disabled,
    h.value]

theorem isPresent_congr {p q : Parameter} (h : p.Alike q) : isPresent p = isPresent q := by
  rw [isPresent, isPresent, Parameter.isEmpty, Parameter.isEmpty, h.luaName, h.disabled, h.value]

theorem fields_congr (object : String) {ps qs : List Parameter}
    (h : List.Forall₂ Parameter.Alike ps qs) : fields object ps = fields object qs := by
  rw [fields, fields, fieldLines, fieldLines,
    filterMap_eq_of_forall₂ (fun _ _ h => assignment?_congr h) h]

/-! ## Operations -/

section Modes

variable {m n : Mode} {modes modes' : List Mode}

theorem isPlaceholder_congr (h : m.Alike n) :
    m.operation.isPlaceholder = n.operation.isPlaceholder := by
  rw [Operation.isPlaceholder, Operation.isPlaceholder, h.operation.name]

theorem operationKey_congr (h : m.Alike n) :
    operationKey m.operation = operationKey n.operation := by
  rw [operationKey, operationKey, h.operation.luaName]

theorem stepTable?_congr (h : m.Alike n) : stepTable? m = stepTable? n := by
  rw [stepTable?, stepTable?, operationKey_congr h, h.steps]

theorem propertyTable?_congr (object : String) (h : m.Alike n) :
    propertyTable? object m = propertyTable? object n := by
  have present : List.Forall₂ Parameter.Alike (m.operation.properties.filter isPresent)
      (n.operation.properties.filter isPresent) :=
    forall₂_filter (fun _ _ h => isPresent_congr h) h.operation.properties
  rw [propertyTable?, propertyTable?, h.operation.luaName,
    filterMap_eq_of_forall₂ (fun _ _ h => assignment?_congr h) present]

theorem forall₂_namedModes (h : List.Forall₂ Mode.Alike modes modes') :
    List.Forall₂ Mode.Alike (namedModes modes) (namedModes modes') :=
  forall₂_filter (fun _ _ h => by rw [isPlaceholder_congr h]) h

theorem operations_congr (object indent : String) (h : List.Forall₂ Mode.Alike modes modes') :
    operations object indent modes = operations object indent modes' := by
  have entry (m n : Mode) (h : m.Alike n) :
      numbered 1 (operationKey m.operation) m.number =
        numbered 1 (operationKey n.operation) n.number := by
    rw [operationKey_congr h, h.number]
  rw [operations, operations, operationLines, operationLines, operationTable?, operationTable?,
    map_eq_of_forall₂ entry (forall₂_namedModes h)]

theorem steps_congr (object indent : String) (h : List.Forall₂ Mode.Alike modes modes') :
    steps object indent modes = steps object indent modes' := by
  rw [steps, steps, stepLines, stepLines, stepTables?, stepTables?,
    filterMap_eq_of_forall₂ (fun _ _ h => stepTable?_congr h) (forall₂_namedModes h)]

theorem properties_congr (object indent : String) (h : List.Forall₂ Mode.Alike modes modes') :
    properties object indent modes = properties object indent modes' := by
  rw [properties, properties, propertyLines, propertyLines,
    filterMap_eq_of_forall₂ (fun _ _ h => propertyTable?_congr object h) h]

end Modes

/-! ## Objects -/

variable {a b : Object}

theorem objectInfo_congr (object indent : String) (registry : Registry) (h : a.Matches b) :
    objectInfo object indent registry a = objectInfo object indent registry b := by
  have luaNames : a.operations.map Operation.luaName = b.operations.map Operation.luaName :=
    map_eq_of_forall₂ (fun _ _ h => h.luaName) h.operations
  have line : isLine a = isLine b := by
    have fills (o : Object) : isLine o = (o.usesGroups &&
        (o.operations.map Operation.luaName).any lineOperations.contains) := by
      rw [isLine, List.any_map]
      rfl
    rw [fills, fills, luaNames, Object.usesGroups, Object.usesGroups, h.groups]
  rw [objectInfo, objectInfo, infoLines, infoLines, connectionLines, connectionLines, line,
    h.groups, Object.isLevel, Object.isLevel, h.level]

/-- All that is written for the two objects is the same, whatever name, indentation, registry and
uses of operations it is written with. -/
structure SameTexts (a b : Object) : Prop where
  objectInfo : ∀ object indent registry,
    objectInfo object indent registry a = objectInfo object indent registry b
  operations : ∀ object indent uses,
    operations object indent (a.modes uses) = operations object indent (b.modes uses)
  steps : ∀ object indent uses,
    steps object indent (a.modes uses) = steps object indent (b.modes uses)
  properties : ∀ object indent uses,
    properties object indent (a.modes uses) = properties object indent (b.modes uses)
  equipment : ∀ object, fields object a.equipment = fields object b.equipment
  aggregateParameters : ∀ object,
    fields object a.aggregateParameters = fields object b.aggregateParameters
  mainParameter : ∀ object,
    fields object a.mainParameter.toList = fields object b.mainParameter.toList

theorem sameTexts_of_matches (h : a.Matches b) : SameTexts a b := by
  have modes (uses : List Use) := Object.alike_modes h uses
  constructor
  case objectInfo => exact fun object indent registry => objectInfo_congr object indent registry h
  case operations => exact fun object indent uses => operations_congr object indent (modes uses)
  case steps => exact fun object indent uses => steps_congr object indent (modes uses)
  case properties => exact fun object indent uses => properties_congr object indent (modes uses)
  case equipment => exact fun object => fields_congr object h.equipment
  case aggregateParameters => exact fun object => fields_congr object h.aggregateParameters
  case mainParameter => exact fun object => fields_congr object (forall₂_toList h.mainParameter)

/-! ## Later edits -/

/-- Nothing that can be seen of the two objects tells them apart, nor of copies of them. -/
structure Indistinguishable (a b : Object) : Prop where
  equal : (a == b) = true
  lookups : a.SameLookups b
  texts : SameTexts a b
  copies : ∀ handle handle' owner, (a.copyFor handle owner == b.copyFor handle' owner) = true

theorem indistinguishable_of_beq (h : (a == b) = true) : Indistinguishable a b where
  equal := h
  lookups := Object.sameLookups_of_beq h
  texts := sameTexts_of_matches (Object.beq_iff_alike.mp h)
  copies handle handle' owner :=
    Object.beq_iff_alike.mpr ((Object.beq_iff_alike.mp h).copyFor handle handle' owner)

/-- Equal objects cannot be told apart after the same edits, and a copy of one can stand in for
it from the start: edits that bring no NaN in keep them equal, and equal objects look the same. -/
theorem indistinguishable_editAll {es : List Object.Edit} (h : (a == b) = true)
    (real : ∀ e ∈ es, e.Real) :
    Indistinguishable (a.editAll es) (b.editAll es) ∧
      ∀ handle, Indistinguishable ((a.copy handle).editAll es) (b.editAll es) := by
  have later {a : Object} (h : (a == b) = true) : Indistinguishable (a.editAll es) (b.editAll es) :=
    indistinguishable_of_beq (Object.editAll_beq h real)
  refine ⟨later h, fun handle => later ?_⟩
  exact Object.beq_iff_alike.mpr ((Object.alike_copy_left handle).mpr (Object.beq_iff_alike.mp h))

/-- Two tanks that differ in their handles and in the sign of a pressure of zero. -/
def tank (handle : Handle) (pressure : Number.Binary64) : Object :=
  (Object.new handle (some ⟨3⟩)).editAll
    [.addOperation "FILL" "Filling" 1, .addGroup "tanks" "Tanks" .units,
      .addSystem "pressure" "Pressure" pressure "bar"]

theorem indistinguishable_tanks :
    Indistinguishable
      ((tank ⟨1⟩ ⟨0⟩).editAll [.addOperation "DRAIN" "Draining" 2, .setSystem "pressure" ⟨0⟩])
      ((tank ⟨2⟩ ⟨0x8000000000000000⟩).editAll
        [.addOperation "DRAIN" "Draining" 2, .setSystem "pressure" ⟨0⟩]) := by
  have equal : (tank ⟨1⟩ ⟨0⟩ == tank ⟨2⟩ ⟨0x8000000000000000⟩) = true := by decide +kernel
  have zero : (⟨0⟩ : Number.Binary64).isNaN = false := by decide
  refine (indistinguishable_editAll equal ?_).1
  simp only [List.forall_mem_cons, List.not_mem_nil, false_implies, implies_true, and_true]
  exact ⟨trivial, zero⟩

end Lua

end Plant
