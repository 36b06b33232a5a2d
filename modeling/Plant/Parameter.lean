import Plant.Identity
import Plant.Text.Blank
import Plant.Text.Case

/-!
# Parameters

The parameters of operations and objects. A parameter holds a text: names of devices, a number, or
for the kinds that are true or false, one of `true` and `false`, whatever text it was given.
-/
namespace Plant

/-- What a parameter holds. -/
inductive ParameterKind where
  /-- Names of devices. -/
  | equipment
  /-- A number or names of devices. -/
  | active
  /-- True or false. -/
  | activeBool
  /-- True or false, for the aggregate as a whole. -/
  | mainAggregate
deriving DecidableEq, Repr

namespace ParameterKind

/-- All kinds. -/
def all : List ParameterKind := [.equipment, .active, .activeBool, .mainAggregate]

/-- The name of a kind. -/
def name : ParameterKind → String
  | equipment => "equipment"
  | active => "active"
  | activeBool => "active_bool"
  | mainAggregate => "main_aggregate"

/-- Tells whether parameters of this kind are true or false. -/
def isBool : ParameterKind → Bool
  | activeBool => true
  | mainAggregate => true
  | _ => false

/-- The texts that mean true, up to letter case and blanks around them. -/
def trueTexts : List String := ["true", "1", "yes", "да"]

/-- Tells whether a text means true. -/
def meansTrue (text : String) : Bool := trueTexts.contains (Text.lower (Text.trim text))

/-- The value that a parameter of this kind takes from a text. -/
def take (k : ParameterKind) (text : String) : String :=
  if k.isBool then (if meansTrue text then "true" else "false") else text

/-- A value is taken as it is. -/
theorem take_take (k : ParameterKind) (text : String) : k.take (k.take text) = k.take text := by
  have yes : meansTrue "true" = true := by decide
  have no : meansTrue "false" = false := by decide
  unfold take
  cases k.isBool <;> cases meansTrue text <;> simp [yes, no]

end ParameterKind

/-- A parameter. Its values are such as its kind takes. -/
structure Parameter where
  kind : ParameterKind
  /-- Its name in the generated code; a parameter without one is not written. -/
  luaName : String
  name : String
  value : String
  defaultValue : String
  /-- A disabled parameter is not written. -/
  disabled : Bool
  /-- The object that the parameter is part of. -/
  holder : Option Handle
  take_value : kind.take value = value
  take_defaultValue : kind.take defaultValue = defaultValue
deriving DecidableEq, Repr

namespace Parameter

/-- A new parameter, which is not part of an object yet and has its default value. -/
def new (kind : ParameterKind) (luaName name text : String) : Parameter :=
  { kind, luaName, name, value := kind.take text, defaultValue := kind.take text,
    disabled := false, holder := none, take_value := kind.take_take text,
    take_defaultValue := kind.take_take text }

/-- A parameter without a name in the generated code. -/
def isEmpty (p : Parameter) : Bool := p.luaName.isEmpty

/-- Gives the parameter the value that its kind takes from a text. -/
def setValue (text : String) (p : Parameter) : Parameter :=
  { p with value := p.kind.take text, take_value := p.kind.take_take text }

/-- Disables or enables the parameter. -/
def setDisabled (disabled : Bool) (p : Parameter) : Parameter := { p with disabled }

/-- Makes the parameter part of an object, or of none. -/
def hold (holder : Option Handle) (p : Parameter) : Parameter := { p with holder }

/-- A change of a parameter's value, of whether it is disabled, or of both. -/
structure Edit where
  text : Option String
  disabled : Option Bool
deriving DecidableEq, Repr

/-- The parameter after a change. -/
def edit (e : Edit) (p : Parameter) : Parameter :=
  let p := e.text.elim p p.setValue
  e.disabled.elim p p.setDisabled

/-- Parameters are equal if they are but for the objects that they are part of. -/
instance : BEq Parameter where
  beq a b := a.kind == b.kind && a.luaName == b.luaName && a.name == b.name && a.value == b.value &&
    a.defaultValue == b.defaultValue && a.disabled == b.disabled

end Parameter

end Plant
