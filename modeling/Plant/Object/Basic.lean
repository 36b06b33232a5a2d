import Plant.Group
import Plant.Operation
import Plant.SystemParameter

/-!
# Objects

The objects of a plant: process cells, units, aggregates and what users define. Operations and
parameters point back to their object by its handle, groups to the owner of their object, so a copy
has to give its parts the new handle.
-/
namespace Plant

/-- An object of a plant. -/
structure Object where
  handle : Handle
  name : String
  /-- The name of the objects of this kind in a project. -/
  eplanName : String
  level : Int32
  /-- The name by which other parts of a project ask for this kind of object. -/
  basicName : String
  /-- The name of the object when it is bound to another one as an aggregate. -/
  bindingName : String
  isPid : Bool
  owner : Option Owner
  operations : List Operation
  equipment : List Parameter
  aggregateParameters : List Parameter
  mainParameter : Option Parameter
  groups : List Group
  systemParameters : SystemParameters

namespace Object

/-- A new object without parts. -/
def new (handle : Handle) (owner : Option Owner) : Object :=
  { handle, name := "", eplanName := "", level := 0, basicName := "", bindingName := "",
    isPid := false, owner, operations := [], equipment := [], aggregateParameters := [],
    mainParameter := none, groups := [], systemParameters := .empty }

/-! ## What an object is -/

/-- The level of the object, if its number is that of a level. -/
def level? (o : Object) : Option Level := Level.ofNumber? o.level

/-- Tells whether the object is of a level. -/
def isLevel (l : Level) (o : Object) : Bool := o.level == l.number

/-- Tells whether the object has groups. -/
def usesGroups (o : Object) : Bool := !o.groups.isEmpty

/-- Tells whether the object may be attached to others. -/
def isAttachable (o : Object) : Bool := o.usesGroups || o.isLevel .unit || o.isLevel .aggregate

/-! ## Operations -/

/-- The first operation of that name. -/
def operationByName? (name : String) (o : Object) : Option Operation :=
  o.operations.find? (·.name == name)

/-- The first operation of that name in the generated code. -/
def operation? (luaName : String) (o : Object) : Option Operation :=
  o.operations.find? (·.luaName == luaName)

/-- The names of the operations, that of the placeholder included. -/
def operationNames (o : Object) : List String := o.operations.map (·.name)

/-- Adds an operation with its properties. The first one comes after a placeholder. -/
def addOperation (operation : Operation) (o : Object) : Object :=
  let before := if o.operations.isEmpty then [Operation.placeholder.hold o.handle] else o.operations
  { o with operations := before ++ [operation.hold o.handle] }

/-- Changes an operation. -/
def editOperation? (which : Entry) (e : Operation.Edit) (o : Object) : Option Object :=
  (which.update? Operation.luaName (·.edit? e) o.operations).map fun operations =>
    { o with operations }

/-! ## Parameters -/

/-- A new parameter that is part of the object. -/
def part (kind : ParameterKind) (luaName name text : String) (o : Object) : Parameter :=
  (Parameter.new kind luaName name text).hold o.handle

/-- Adds an equipment parameter. -/
def addEquipment (luaName name text : String) (o : Object) : Object :=
  { o with equipment := o.equipment ++ [o.part .equipment luaName name text] }

/-- Adds an aggregate parameter that is a number or names devices. -/
def addActive (luaName name text : String) (o : Object) : Object :=
  { o with
    aggregateParameters := o.aggregateParameters ++ [o.part .active luaName name text] }

/-- Adds an aggregate parameter that is true or false. -/
def addActiveBool (luaName name text : String) (o : Object) : Object :=
  { o with
    aggregateParameters := o.aggregateParameters ++ [o.part .activeBool luaName name text] }

/-- Gives the object a main parameter, in place of the one that it had. -/
def setMain (luaName name text : String) (o : Object) : Object :=
  { o with mainParameter := some (o.part .mainAggregate luaName name text) }

/-- Changes an equipment parameter. -/
def editEquipment? (which : Entry) (e : Parameter.Edit) (o : Object) : Option Object :=
  (which.update? Parameter.luaName (fun p => some (p.edit e)) o.equipment).map fun equipment =>
    { o with equipment }

/-- Changes an aggregate parameter. -/
def editAggregate? (which : Entry) (e : Parameter.Edit) (o : Object) : Option Object :=
  (which.update? Parameter.luaName (fun p => some (p.edit e)) o.aggregateParameters).map
    fun aggregateParameters => { o with aggregateParameters }

/-- Changes the main parameter. -/
def editMain? (e : Parameter.Edit) (o : Object) : Option Object :=
  o.mainParameter.map fun p => { o with mainParameter := some (p.edit e) }

/-- The first equipment parameter of that name. -/
def equipment? (luaName : String) (o : Object) : Option Parameter :=
  o.equipment.find? (·.luaName == luaName)

/-- The first aggregate parameter of that name. -/
def aggregateParameter? (luaName : String) (o : Object) : Option Parameter :=
  o.aggregateParameters.find? (·.luaName == luaName)

/-! ## Groups and system parameters -/

/-- Adds a group without members, which has the owner of the object. -/
def addGroup (luaName name : String) (admission : Admission) (o : Object) : Object :=
  { o with groups := o.groups ++ [Group.new luaName name admission o.owner] }

/-- Gives the first group of that name a value. -/
def setGroup? (luaName value : String) (o : Object) : Option Object :=
  (updateFirst? (·.luaName == luaName) (fun g => some (g.setValue value)) o.groups).map
    fun groups => { o with groups }

/-- The first group of that name. -/
def group? (luaName : String) (o : Object) : Option Group :=
  o.groups.find? (·.luaName == luaName)

/-- Gives the object and its groups an owner, or none. -/
def setOwner (owner : Option Owner) (o : Object) : Object :=
  { o with owner, groups := o.groups.map (·.setOwner owner) }

/-- Adds a system parameter, and tells the index that it was given. -/
def addSystem (luaName name : String) (value : Number.Binary64) (meter : String) (o : Object) :
    UInt32 × Object :=
  let (index, systemParameters) := o.systemParameters.add luaName name value meter
  (index, { o with systemParameters })

/-- Changes the value of the first system parameter of that name. -/
def setSystem? (luaName : String) (value : Number.Binary64) (o : Object) : Option Object :=
  (o.systemParameters.setValue? luaName value).map fun systemParameters =>
    { o with systemParameters }

/-! ## Copies and equality -/

/-- A copy under a new handle, which all its parts point back to. -/
def copy (handle : Handle) (o : Object) : Object :=
  { o with
    handle
    operations := o.operations.map (·.hold handle)
    equipment := o.equipment.map (·.hold handle)
    aggregateParameters := o.aggregateParameters.map (·.hold handle)
    mainParameter := o.mainParameter.map (·.hold handle) }

/-- A copy that belongs to an owner. -/
def copyFor (handle : Handle) (owner : Owner) (o : Object) : Object :=
  (o.copy handle).setOwner owner

/-- Objects are equal if they are but for the handles. -/
instance : BEq Object where
  beq a b := a.name == b.name && a.eplanName == b.eplanName && a.level == b.level &&
    a.basicName == b.basicName && a.bindingName == b.bindingName && a.isPid == b.isPid &&
    a.owner == b.owner && a.operations == b.operations && a.equipment == b.equipment &&
    a.aggregateParameters == b.aggregateParameters && a.mainParameter == b.mainParameter &&
    a.groups == b.groups && a.systemParameters == b.systemParameters

end Object

end Plant
