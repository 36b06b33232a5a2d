import Plant.Catalog.Template
import Plant.Object.Edit
import Plant.Proofs.Entry

/-!
# Lineages

An object with its past: the empty object that it goes back to, and every edit and copy that lies
between the two. A copy goes on where its source was, so the past of an object includes that of the
objects that it was copied from. Whatever is true of new objects and is kept by edits and copies is
true of all objects that have a lineage.

Results:
1. `object_induction`: the induction over lineages.
2. `build_eq_editAll`: the object that a definition defines is what a sequence of edits makes of a
   new object, so templates have lineages too.
-/
namespace Plant

/-- What happens to an object: an edit, or that a copy takes its place under a handle. -/
inductive Event where
  | edit (e : Object.Edit)
  | copy (handle : Handle)

/-- The object after an event. -/
def Event.apply : Event → Object → Object
  | edit e, o => o.edit e
  | copy handle, o => o.copy handle

/-- The past of an object, from the new object on that it goes back to. -/
structure Lineage where
  handle : Handle
  owner : Option Owner
  events : List Event

namespace Lineage

/-- The object that the past leads to. -/
def object (l : Lineage) : Object :=
  l.events.foldl (fun o e => e.apply o) (Object.new l.handle l.owner)

/-- The past with one more event. -/
def andThen (l : Lineage) (e : Event) : Lineage := { l with events := l.events ++ [e] }

/-- The past of a copy that belongs to an owner. -/
def copiedFor (l : Lineage) (handle : Handle) (owner : Owner) : Lineage :=
  (l.andThen (.copy handle)).andThen (.edit (.setOwner owner))

@[simp] theorem object_andThen (l : Lineage) (e : Event) :
    (l.andThen e).object = e.apply l.object := by
  simp [object, andThen, List.foldl_append]

@[simp] theorem object_copiedFor (l : Lineage) (handle : Handle) (owner : Owner) :
    (l.copiedFor handle owner).object = l.object.copyFor handle owner := by
  rw [copiedFor, object_andThen, object_andThen]
  rfl

/-- Whatever is true of new objects and is kept by edits and copies is true of every object with a
past. -/
theorem object_induction {P : Object → Prop} (new : ∀ handle owner, P (Object.new handle owner))
    (edit : ∀ o e o', P o → o.edit? e = some o' → P o') (copy : ∀ o handle, P o → P (o.copy handle))
    (l : Lineage) : P l.object := by
  suffices h : ∀ (es : List Event) (o : Object), P o → P (es.foldl (fun o e => e.apply o) o) from
    h l.events _ (new l.handle l.owner)
  intro es
  induction es with
  | nil => exact fun _ ho => ho
  | cons e es ih =>
    intro o ho
    refine ih _ ?_
    cases e with
    | copy handle => exact copy o handle ho
    | edit e =>
      show P ((o.edit? e).getD o)
      cases he : o.edit? e with
      | none => exact ho
      | some o' => exact edit o e o' ho he

end Lineage

/-! ## Definitions as edits -/

namespace Catalog

/-- The edit that adds the aggregate parameter that a definition defines. -/
def ActiveDefinition.aggregateEdit (d : ActiveDefinition) : Object.Edit :=
  match d.type with
  | .active => .addActive d.luaName d.name d.defaultValue
  | .bool => .addActiveBool d.luaName d.name d.defaultValue

/-- The edits that add the operation that a definition defines, and then its properties. -/
def OperationDefinition.edits (d : OperationDefinition) : List Object.Edit :=
  .addOperation d.luaName d.name d.position ::
    d.properties.map fun p => .editOperation .last (.addProperty p.property)

namespace Definition

/-- The edits that make what is defined out of a new object. -/
def edits (level : Int32) (d : Definition) : List Object.Edit :=
  [.setName d.name, .setEplanName d.eplanName, .setLevel level, .setBasicName d.basicName,
    .setBindingName d.bindingName, .setPid d.isPid] ++
  d.operations.flatMap OperationDefinition.edits ++
  d.equipment.map (fun p => .addEquipment p.luaName p.name p.value) ++
  d.aggregateParameters.map ActiveDefinition.aggregateEdit ++
  d.mainParameter.toList.map (fun p => .setMain p.luaName p.name p.defaultValue) ++
  d.groups.map (fun g => .addGroup g.luaName g.name (Admission.ofSpec g.allowedObjects)) ++
  d.systemParameters.map fun p => .addSystem p.luaName p.name p.value p.meter

end Definition

end Catalog

namespace LineageLemmas

open Object Catalog

theorem editAll_append (es fs : List Edit) (o : Object) :
    o.editAll (es ++ fs) = (o.editAll es).editAll fs :=
  List.foldl_append

theorem editAll_cons (e : Edit) (es : List Edit) (o : Object) :
    o.editAll (e :: es) = (o.edit e).editAll es :=
  rfl

theorem hold_addProperty (holder : Option Handle) (p : Parameter) (op : Operation) :
    (op.addProperty p).hold holder = (op.hold holder).addProperty p := by
  simp [Operation.addProperty, Operation.hold, Parameter.hold]

/-- A property that is added to the operation added last could have been there before. -/
theorem edit_addProperty_last (p : Parameter) (op : Operation) (o : Object) :
    (o.addOperation op).edit (.editOperation .last (.addProperty p)) =
      o.addOperation (op.addProperty p) := by
  simp [edit, edit?, editOperation?, addOperation, Entry.update?, updateLast?_append_singleton,
    Operation.edit?, hold_addProperty]

theorem editAll_addProperties (ps : List ActiveDefinition) (op : Operation) (o : Object) :
    (o.addOperation op).editAll (ps.map fun p => .editOperation .last (.addProperty p.property)) =
      o.addOperation (ps.foldl (fun op p => op.addProperty p.property) op) := by
  induction ps generalizing op with
  | nil => rfl
  | cons p ps ih => rw [List.map_cons, editAll_cons, edit_addProperty_last, ih]; rfl

theorem editAll_operation (d : OperationDefinition) (o : Object) :
    o.editAll d.edits = o.addOperation d.operation := by
  rw [OperationDefinition.edits, editAll_cons]
  exact editAll_addProperties d.properties _ o

theorem editAll_operations (ds : List OperationDefinition) (o : Object) :
    o.editAll (ds.flatMap OperationDefinition.edits) =
      ds.foldl (fun o d => o.addOperation d.operation) o := by
  induction ds generalizing o with
  | nil => rfl
  | cons d ds ih => rw [List.flatMap_cons, editAll_append, editAll_operation, ih]; rfl

theorem editAll_map {α : Type} (f : α → Edit) (as : List α) (o : Object) :
    o.editAll (as.map f) = as.foldl (fun o a => o.edit (f a)) o :=
  List.foldl_map

theorem edit_aggregateEdit (d : ActiveDefinition) (o : Object) :
    o.edit d.aggregateEdit = d.addAggregate o := by
  rcases d with ⟨luaName, name, defaultValue, type⟩
  cases type <;> rfl

end LineageLemmas

open LineageLemmas in
/-- What a definition defines is made by edits alone. -/
theorem build_eq_editAll (handle : Handle) (level : Int32) (d : Catalog.Definition) :
    d.build handle level = (Object.new handle none).editAll (d.edits level) := by
  have bare : (Object.new handle none).editAll
      [.setName d.name, .setEplanName d.eplanName, .setLevel level, .setBasicName d.basicName,
        .setBindingName d.bindingName, .setPid d.isPid] = d.bare handle level := rfl
  have main (o : Object) : (d.mainParameter.toList.map fun p => Object.Edit.setMain p.luaName p.name
      p.defaultValue).foldl (fun o e => o.edit e) o =
      d.mainParameter.elim o fun p => o.setMain p.luaName p.name p.defaultValue := by
    cases d.mainParameter <;> rfl
  simp only [Catalog.Definition.edits, editAll_append, bare, editAll_operations, editAll_map,
    edit_aggregateEdit]
  rw [← List.foldl_map (f := fun p : Catalog.ActiveDefinition =>
    Object.Edit.setMain p.luaName p.name p.defaultValue) (g := fun o e => Object.edit e o), main]
  rfl

end Plant
