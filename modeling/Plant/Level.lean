import Plant.Text.Blank
import Plant.Text.Case

/-!
# Levels

The S88 levels of the objects of a plant. A level is written as a number or as a name; the name may
be in any letter case, with hyphens or underscores, and with blanks around it.
-/
namespace Plant

/-- The level of an object. -/
inductive Level where
  | processCell
  | unit
  | aggregate
  | userObject
deriving DecidableEq, Repr

namespace Level

/-- All levels, in ascending order. -/
def all : List Level := [.processCell, .unit, .aggregate, .userObject]

/-- The number of a level. -/
def number : Level → Int32
  | processCell => 0
  | unit => 1
  | aggregate => 2
  | userObject => 3

/-- The level of a number; most numbers have none. -/
def ofNumber? (n : Int32) : Option Level := all.find? (·.number == n)

/-- The name of a level. -/
def name : Level → String
  | processCell => "process_cell"
  | unit => "unit"
  | aggregate => "aggregate"
  | userObject => "user_object"

/-- A name in lower case, without blanks around it and with underscores for hyphens. -/
def spelling (s : String) : String :=
  String.ofList ((Text.lower (Text.trim s)).toList.map fun c => if c = '-' then '_' else c)

/-- The level that a name means; a name of two words may be written as one. -/
def ofName? (s : String) : Option Level :=
  match spelling s with
  | "process_cell" => some processCell
  | "processcell" => some processCell
  | "unit" => some unit
  | "aggregate" => some aggregate
  | "user_object" => some userObject
  | "userobject" => some userObject
  | _ => none

end Level

end Plant
