import Std.Data.HashMap
import Plant.Level
import Plant.Number.Decimal

/-!
# Registry

The technological objects of a project under their global numbers, and its process cell. Generated
code refers to a registered object by its name in lower case followed by its technological number.
-/
namespace Plant

/-- A registered technological object. -/
structure Registered where
  eplanName : String
  number : UInt32
  level : Int32
deriving DecidableEq, Repr

namespace Registered

/-- The level of the object, if its number is that of a level. -/
def level? (r : Registered) : Option Level := Level.ofNumber? r.level

/-- The name of the object in generated code. -/
def luaName (r : Registered) : String :=
  Text.lower r.eplanName ++ Number.decimal r.number.toNat

/-- The name of the object in generated code, with the table that holds it. -/
def qualifiedName (r : Registered) : String := "prg." ++ r.luaName

end Registered

/-- The registered objects of a project. -/
structure Registry where
  objects : Std.HashMap UInt64 Registered
  processCell : Option Registered

namespace Registry

/-- The registry of a project without objects. -/
def empty : Registry := { objects := ∅, processCell := none }

/-- The object under a global number. -/
def find? (number : UInt64) (r : Registry) : Option Registered := r.objects[number]?

/-- Puts an object under a global number, in place of the one that was there. -/
def insert (number : UInt64) (object : Registered) (r : Registry) : Registry :=
  { r with objects := r.objects.insert number object }

/-- Makes an object the process cell of the project, or leaves the project without one. -/
def setProcessCell (object : Option Registered) (r : Registry) : Registry :=
  { r with processCell := object }

/-- The number of the objects that have a global number. -/
def size (r : Registry) : Nat := r.objects.size

/-- Tells whether no object has a global number. -/
def isEmpty (r : Registry) : Bool := r.objects.isEmpty

end Registry

end Plant
