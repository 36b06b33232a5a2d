import Plant.Number.Decimal

/-!
# Identities

Two kinds of reference that are kept apart: the handle of an object, by which its parts point back
to it, and its owner, the technological object that it belongs to, known only by its number.
-/
namespace Plant

/-- The handle of an object. No two objects have the same one, and later ones have greater ones. -/
structure Handle where
  number : UInt64
deriving DecidableEq, Repr

namespace Handle

/-- The handle of the first object. -/
def first : Handle := ⟨1⟩

/-- The handle after this one. -/
def next (h : Handle) : Handle := ⟨h.number + 1⟩

/-- The handle after `n` more. -/
def advance (n : Nat) (h : Handle) : Handle := ⟨h.number + UInt64.ofNat n⟩

/-- Handles compare by age. -/
instance : Ord Handle where
  compare a b := compare a.number b.number

end Handle

/-- The technological object that objects belong to, by its number. -/
structure Owner where
  number : UInt64
deriving DecidableEq, Repr

/-- The owner as it is shown. -/
def Owner.display (o : Owner) : String := "tech#" ++ Number.decimal o.number.toNat

end Plant
