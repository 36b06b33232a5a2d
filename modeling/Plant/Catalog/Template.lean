import Plant.Catalog.Document
import Plant.Object.Basic

/-!
# Templates

The object that a definition defines, built part by part by what builds any object.
-/
namespace Plant.Catalog

/-- The number of the level, or the name that is none of a level. -/
def LevelSpec.resolve : LevelSpec → Except String Int32
  | number n => .ok n
  | name s => match Level.ofName? s with
    | some l => .ok l.number
    | none => .error s

/-- The kind of an active parameter. -/
def ActiveType.kind : ActiveType → ParameterKind
  | active => .active
  | bool => .activeBool

/-- The property that a definition defines. -/
def ActiveDefinition.property (d : ActiveDefinition) : Parameter :=
  Parameter.new d.type.kind d.luaName d.name d.defaultValue

/-- Adds the aggregate parameter that a definition defines. -/
def ActiveDefinition.addAggregate (d : ActiveDefinition) (o : Object) : Object :=
  match d.type with
  | .active => o.addActive d.luaName d.name d.defaultValue
  | .bool => o.addActiveBool d.luaName d.name d.defaultValue

/-- The operation that a definition defines. -/
def OperationDefinition.operation (d : OperationDefinition) : Operation :=
  d.properties.foldl (fun o p => o.addProperty p.property)
    (Operation.new d.luaName d.name d.position)

namespace Definition

/-- The object without its parts. -/
def bare (handle : Handle) (level : Int32) (d : Definition) : Object :=
  { Object.new handle none with
    name := d.name, eplanName := d.eplanName, level, basicName := d.basicName,
    bindingName := d.bindingName, isPid := d.isPid }

/-- The object that a definition defines, at a level. -/
def build (handle : Handle) (level : Int32) (d : Definition) : Object :=
  let o := d.bare handle level
  let o := d.operations.foldl (fun o p => o.addOperation p.operation) o
  let o := d.equipment.foldl (fun o p => o.addEquipment p.luaName p.name p.value) o
  let o := d.aggregateParameters.foldl (fun o p => p.addAggregate o) o
  let o := d.mainParameter.elim o fun p => o.setMain p.luaName p.name p.defaultValue
  let o := d.groups.foldl
    (fun o g => o.addGroup g.luaName g.name (Admission.ofSpec g.allowedObjects)) o
  d.systemParameters.foldl (fun o p => (o.addSystem p.luaName p.name p.value p.meter).2) o

end Definition

end Plant.Catalog
