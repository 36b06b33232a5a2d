import Plant.Entry
import Plant.Parameter

/-!
# Operations

What an object can do, with the properties that are set for it.
-/
namespace Plant

/-- An operation. -/
structure Operation where
  /-- Its name in the generated code. -/
  luaName : String
  name : String
  /-- The position that it takes when an object is set up. -/
  position : Int32
  properties : List Parameter
  /-- The object that the operation is part of. -/
  holder : Option Handle
deriving DecidableEq, Repr

namespace Operation

/-- A new operation without properties, which is not part of an object yet. -/
def new (luaName name : String) (position : Int32) : Operation :=
  { luaName, name, position, properties := [], holder := none }

/-- The placeholder that stands for no operation. -/
def placeholder : Operation := new "" "" 0

/-- An operation without a name is not written. -/
def isPlaceholder (o : Operation) : Bool := o.name.isEmpty

/-- Adds a property, which becomes part of the operation's object. -/
def addProperty (p : Parameter) (o : Operation) : Operation :=
  { o with properties := o.properties ++ [p.hold o.holder] }

/-- The first property of that name. -/
def property? (luaName : String) (o : Operation) : Option Parameter :=
  o.properties.find? (·.luaName == luaName)

/-- Changes a property. -/
def editProperty? (which : Entry) (e : Parameter.Edit) (o : Operation) : Option Operation :=
  (which.update? Parameter.luaName (fun p => some (p.edit e)) o.properties).map fun properties =>
    { o with properties }

/-- A change of an operation. -/
inductive Edit where
  | addProperty (p : Parameter)
  | editProperty (which : Entry) (e : Parameter.Edit)
deriving DecidableEq, Repr

/-- The operation after a change; nothing if the change does not find what it is to change. -/
def edit? : Edit → Operation → Option Operation
  | .addProperty p, o => some (o.addProperty p)
  | .editProperty which e, o => o.editProperty? which e

/-- Makes the operation and its properties part of an object, or of none. -/
def hold (holder : Option Handle) (o : Operation) : Operation :=
  { o with holder, properties := o.properties.map (·.hold holder) }

/-- Operations are equal if they are but for the objects that they are part of. -/
instance : BEq Operation where
  beq a b := a.luaName == b.luaName && a.name == b.name && a.position == b.position &&
    a.properties == b.properties

end Operation

end Plant
