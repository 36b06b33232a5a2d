import Plant.Identity
import Plant.Registry
import Plant.Text.Blank

/-!
# Groups

A group names objects that are attached to an object. Its value is a text of global numbers; the
members are the registered objects under these numbers whose level the group admits.
-/
namespace Plant

/-- Which objects a group admits. -/
inductive Admission where
  /-- Aggregates and units. -/
  | all
  | units
  | aggregates
  /-- Aggregates, because nothing known was asked for. -/
  | fallback
deriving DecidableEq, Repr

namespace Admission

/-- Every admission. -/
def every : List Admission := [.all, .units, .aggregates, .fallback]

/-- The name of an admission. -/
def name : Admission → String
  | all => "all"
  | units => "units"
  | aggregates => "aggregates"
  | fallback => "default"

/-- The admission that a text asks for; it has to be written exactly. -/
def ofSpec (spec : String) : Admission :=
  match spec with
  | "all" => all
  | "units" => units
  | "aggregates" => aggregates
  | _ => fallback

/-- The levels that are admitted. -/
def levels : Admission → List Level
  | all => [.aggregate, .unit]
  | units => [.unit]
  | aggregates => [.aggregate]
  | fallback => [.aggregate]

/-- Tells whether objects of a level are admitted. -/
def admits (a : Admission) (l : Level) : Bool := a.levels.contains l

end Admission

/-- A group of attached objects. -/
structure Group where
  luaName : String
  name : String
  admission : Admission
  /-- The global numbers of the members, between blanks. -/
  value : String
  owner : Option Owner
deriving DecidableEq, Repr

namespace Group

/-- A new group without members. -/
def new (luaName name : String) (admission : Admission) (owner : Option Owner) : Group :=
  { luaName, name, admission, value := "", owner }

/-- A group without a value is not written. -/
def isInert (g : Group) : Bool := g.value.isEmpty

/-- Gives the group a value. -/
def setValue (value : String) (g : Group) : Group := { g with value }

/-- Gives the group an owner, or none. -/
def setOwner (owner : Option Owner) (g : Group) : Group := { g with owner }

/-- The member that a word of the value stands for: a registered object of a level that is
admitted. -/
def member? (registry : Registry) (a : Admission) (word : String) : Option Registered := do
  let number ← Number.word64? word
  let object ← registry.find? number
  let level ← object.level?
  if a.admits level then some object else none

/-- The qualified names of the members, in the order of the value and with its repetitions. -/
def memberNames (registry : Registry) (g : Group) : List String :=
  (Text.words g.value).filterMap fun word =>
    (member? registry g.admission word).map Registered.qualifiedName

end Group

end Plant
