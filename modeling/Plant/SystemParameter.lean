import Plant.Entry
import Plant.Number.Binary64

/-!
# System parameters

Numbers that belong to an object as a whole. Each has an index that is given when it is added and
never given again.
-/
namespace Plant

/-- A system parameter. -/
structure SystemParameter where
  index : UInt32
  luaName : String
  name : String
  value : Number.Binary64
  /-- The unit of the value. -/
  meter : String

namespace SystemParameter

/-- Parameters are equal if their values are equal as numbers and the rest is the same. -/
instance : BEq SystemParameter where
  beq a b := a.index == b.index && a.luaName == b.luaName && a.name == b.name &&
    a.value == b.value && a.meter == b.meter

end SystemParameter

/-- The system parameters of an object, in the order in which they were added. -/
structure SystemParameters where
  entries : List SystemParameter
  /-- The index of the next parameter. -/
  nextIndex : UInt32

namespace SystemParameters

/-- No parameters; the first will have the index 1. -/
def empty : SystemParameters := { entries := [], nextIndex := 1 }

/-- Adds a parameter at the end, and tells the index that it was given. -/
def add (luaName name : String) (value : Number.Binary64) (meter : String) (s : SystemParameters) :
    UInt32 × SystemParameters :=
  let index := s.nextIndex
  (index, { entries := s.entries ++ [{ index, luaName, name, value, meter }]
            nextIndex := index + 1 })

/-- The number of the parameters. -/
def size (s : SystemParameters) : Nat := s.entries.length

/-- Tells whether there are no parameters. -/
def isEmpty (s : SystemParameters) : Bool := s.entries.isEmpty

/-- The first parameter of that name. -/
def find? (luaName : String) (s : SystemParameters) : Option SystemParameter :=
  s.entries.find? (·.luaName == luaName)

/-- The first parameter with that index. -/
def findIndex? (index : UInt32) (s : SystemParameters) : Option SystemParameter :=
  s.entries.find? (·.index == index)

/-- Changes the value of the first parameter of that name. -/
def setValue? (luaName : String) (value : Number.Binary64) (s : SystemParameters) :
    Option SystemParameters :=
  (updateFirst? (·.luaName == luaName) (fun p => some { p with value }) s.entries).map fun entries =>
    { s with entries }

/-- Collections are equal if their parameters are and they go on with the same index. -/
instance : BEq SystemParameters where
  beq a b := a.entries == b.entries && a.nextIndex == b.nextIndex

end SystemParameters

end Plant
