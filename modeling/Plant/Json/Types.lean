import Plant.Json.Shape

/-!
# Integers in documents

The types of integers that documents are read as, by the names that messages give them.
-/
namespace Plant.Json.Shape

/-- The integer in 32 bits, if it fits. -/
def int32? (i : Int) : Option Int32 :=
  if Int32.minValue.toInt ≤ i ∧ i ≤ Int32.maxValue.toInt then some (Int32.ofInt i) else none

/-- A signed integer of 32 bits. -/
def int32 : Shape Int32 := .integer "i32" int32?

/-- An unsigned integer of 32 bits. -/
def word32 : Shape UInt32 :=
  .integer "u32" fun i => if 0 ≤ i ∧ i < UInt32.size then some (UInt32.ofNat i.toNat) else none

end Plant.Json.Shape
