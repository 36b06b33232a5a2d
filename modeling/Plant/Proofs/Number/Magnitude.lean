import Mathlib.Algebra.Order.Field.Power
import Mathlib.Data.Rat.Cast.Order
import Mathlib.Tactic.NormNum
import Mathlib.Tactic.Positivity
import Plant.Proofs.Number.Spelling

/-!
# Finite numerals

A numeral is finite by the number that it spells. Leading zeros do not count, and where the first
other digit stands tells the magnitude within a factor of ten; so only near the bound the digits
have to be looked at.

Results:
1. `Numeral.isFinite_iff`: the numerals whose magnitude is below the bound.
2. `isFiniteNumeral_iff`: the texts that spell a number below the bound.
-/
namespace Plant.Number

open Numeral

/-- The text spells a number that rounds to a finite one: numbers at least half a step beyond the
greatest one do not. -/
def SpellsFinite (cs : List Char) : Prop := ∃ x, Spells cs x ∧ |x| < 2 ^ 1024 - 2 ^ 970

namespace MagnitudeLemmas

variable {c : Char} {ds : List Char}

/-! ## Digits -/

theorem ofDigits_cons (c : Char) (ds : List Char) :
    ofDigits (c :: ds) = 10 ^ ds.length * (c.toNat - '0'.toNat) + ofDigits ds := by
  rw [ofDigits, Nat.ofDigitChars_cons, Nat.ofDigitChars_eq_ofDigitChars_zero, Nat.mul_zero,
    Nat.zero_add, ofDigits]

theorem toNat_of_isDigit (h : c.isDigit = true) : 48 ≤ c.toNat ∧ c.toNat ≤ 57 := by
  simpa [Char.isDigit, UInt32.le_iff_toNat_le] using h

theorem ofDigits_lt (hds : OnlyDigits ds) : ofDigits ds < 10 ^ ds.length := by
  induction ds with
  | nil => decide
  | cons c ds ih =>
    obtain ⟨hc, hds⟩ := List.forall_mem_cons.mp hds
    have digit : c.toNat - '0'.toNat ≤ 9 := by
      have range := toNat_of_isDigit hc
      show c.toNat - 48 ≤ 9
      omega
    calc
      ofDigits (c :: ds) = 10 ^ ds.length * (c.toNat - '0'.toNat) + ofDigits ds :=
        ofDigits_cons c ds
      _ < 10 ^ ds.length * 9 + 10 ^ ds.length :=
        Nat.add_lt_add_of_le_of_lt (Nat.mul_le_mul_left _ digit) (ih hds)
      _ = 10 ^ (c :: ds).length := by rw [List.length_cons, Nat.pow_succ]; omega

theorem pow_le_ofDigits (hc : c.isDigit = true) (zero : c ≠ '0') (ds : List Char) :
    10 ^ ds.length ≤ ofDigits (c :: ds) := by
  have digit : 1 ≤ c.toNat - '0'.toNat := by
    have range := toNat_of_isDigit hc
    have other : c.toNat ≠ '0'.toNat := fun h => zero (Char.toNat_inj.mp h)
    change c.toNat ≠ 48 at other
    show 1 ≤ c.toNat - 48
    omega
  calc
    10 ^ ds.length ≤ 10 ^ ds.length * (c.toNat - '0'.toNat) := Nat.le_mul_of_pos_right _ digit
    _ ≤ ofDigits (c :: ds) := by rw [ofDigits_cons]; exact Nat.le_add_right _ _

/-- Zeros in front do not count. -/
theorem ofDigits_dropWhile (ds : List Char) : ofDigits (ds.dropWhile (· == '0')) = ofDigits ds := by
  induction ds with
  | nil => rfl
  | cons c ds ih =>
    rw [List.dropWhile_cons]
    split
    case isTrue zero =>
      rw [eq_of_beq zero, ih, ofDigits_cons, Nat.sub_self, Nat.mul_zero, Nat.zero_add]
    case isFalse => rfl

/-! ## The bound -/

theorem cast_bound : (bound : ℚ) = 2 ^ 1024 - 2 ^ 970 := by
  have order : 970 ≤ 1024 := by decide
  unfold bound
  -- as variables the exponents are not evaluated
  generalize 1024 = a, 970 = b at order ⊢
  have le : Nat.pow 2 b ≤ Nat.pow 2 a := Nat.pow_le_pow_right (by decide) order
  rw [Nat.cast_sub le]
  exact congrArg₂ (· - ·) (Nat.cast_pow 2 a) (Nat.cast_pow 2 b)

theorem zpow_natCast_eq (k : Nat) : (10 : ℚ) ^ (k : Int) = (Nat.pow 10 k : Nat) := by
  rw [zpow_natCast]
  exact (Nat.cast_pow 10 k).symm

theorem zpow_lt_bound {k : Nat} {p : Int} (hk : Nat.pow 10 k < bound) (hp : p ≤ k) :
    (10 : ℚ) ^ p < bound :=
  calc
    (10 : ℚ) ^ p ≤ 10 ^ (k : Int) := zpow_le_zpow_right₀ (by norm_num) hp
    _ = (Nat.pow 10 k : Nat) := zpow_natCast_eq k
    _ < bound := Nat.cast_lt.mpr hk

theorem bound_lt_zpow {k : Nat} {p : Int} (hk : bound < Nat.pow 10 k) (hp : k ≤ p) :
    (bound : ℚ) < 10 ^ p :=
  calc
    (bound : ℚ) < (Nat.pow 10 k : Nat) := Nat.cast_lt.mpr hk
    _ = 10 ^ (k : Int) := (zpow_natCast_eq k).symm
    _ ≤ 10 ^ p := zpow_le_zpow_right₀ (by norm_num) hp

theorem below_iff (m : Nat) (p : Int) : below m p = true ↔ (m : ℚ) * 10 ^ p < bound := by
  cases p with
  | ofNat k =>
    rw [below, decide_eq_true_eq, Int.ofNat_eq_natCast, zpow_natCast_eq, ← Nat.cast_mul,
      Nat.cast_lt]
  | negSucc k =>
    rw [below, decide_eq_true_eq, zpow_negSucc, ← div_eq_mul_inv,
      div_lt_iff₀ (pow_pos (by norm_num) _), ← zpow_natCast, zpow_natCast_eq, ← Nat.cast_mul,
      Nat.cast_lt]

/-- The place of the first digit that counts tells the magnitude within a factor of ten. -/
theorem magnitude_bounds (hds : OnlyDigits (c :: ds)) (zero : c ≠ '0') (p : Int) :
    (10 : ℚ) ^ (ds.length + p) ≤ ofDigits (c :: ds) * 10 ^ p ∧
      (ofDigits (c :: ds) : ℚ) * 10 ^ p < 10 ^ ((c :: ds).length + p) := by
  have ten : (10 : ℚ) ≠ 0 := by norm_num
  have positive : (0 : ℚ) < 10 ^ p := zpow_pos (by norm_num) p
  have lower : (10 : ℚ) ^ (ds.length : Int) ≤ ofDigits (c :: ds) := by
    rw [zpow_natCast_eq]
    exact Nat.cast_le.mpr (pow_le_ofDigits (List.forall_mem_cons.mp hds).1 zero ds)
  have upper : (ofDigits (c :: ds) : ℚ) < 10 ^ ((c :: ds).length : Int) := by
    rw [zpow_natCast_eq]
    exact Nat.cast_lt.mpr (ofDigits_lt hds)
  rw [zpow_add₀ ten, zpow_add₀ ten]
  exact ⟨mul_le_mul_of_nonneg_right lower positive.le, mul_lt_mul_of_pos_right upper positive⟩

end MagnitudeLemmas

open MagnitudeLemmas

namespace Numeral

/-- The numerals that are finite: the shortcuts by the position of the first digit are right. -/
theorem isFinite_iff {n : Numeral} (digits : OnlyDigits n.digits) :
    n.isFinite = true ↔ n.magnitude < 2 ^ 1024 - 2 ^ 970 := by
  rw [← cast_bound, magnitude, ← ofDigits_dropWhile n.digits]
  have small_enough : Nat.pow 10 308 < bound := by decide +kernel
  have too_large : bound < Nat.pow 10 310 := by decide +kernel
  have significant : OnlyDigits (n.digits.dropWhile (· == '0')) :=
    fun c hc => digits c ((List.dropWhile_sublist _).mem hc)
  have first := List.head?_dropWhile_not (· == '0') n.digits
  unfold isFinite
  generalize n.digits.dropWhile (· == '0') = ds at significant first ⊢
  cases ds with
  | nil =>
    refine iff_of_true rfl ?_
    rw [show ofDigits [] = 0 from rfl, Nat.cast_zero, zero_mul]
    exact (zpow_pos (by norm_num) 0).trans (zpow_lt_bound small_enough (by decide))
  | cons c ds =>
    have zero : c ≠ '0' := fun h => by simp [h] at first
    obtain ⟨lower, upper⟩ := magnitude_bounds significant zero n.power
    simp only [List.cons_ne_nil, false_or]
    split
    case isTrue small => exact iff_of_true rfl (upper.trans (zpow_lt_bound small_enough small))
    case isFalse =>
      split
      case isTrue large =>
        rw [List.length_cons] at large
        have place : (310 : Nat) ≤ (ds.length : Int) + n.power := by
          push_cast at large ⊢
          omega
        exact iff_of_false Bool.false_ne_true
          (not_lt.mpr ((bound_lt_zpow too_large place).le.trans lower))
      case isFalse => exact below_iff _ _

theorem abs_value (n : Numeral) : |n.value| = n.magnitude := by
  have nonneg : 0 ≤ n.magnitude :=
    mul_nonneg (Nat.cast_nonneg _) (zpow_nonneg (by norm_num) _)
  rw [value, factor, abs_mul, abs_of_nonneg nonneg]
  split <;> simp

end Numeral

/-- The texts that are numerals of a finite value are those that spell a number that rounds to a
finite one. -/
theorem isFiniteNumeral_iff (s : String) : isFiniteNumeral s = true ↔ SpellsFinite s.toList := by
  rw [isFiniteNumeral, Option.any_eq_true]
  constructor
  · rintro ⟨n, hn, finite⟩
    refine ⟨n.value, spells_of_read? hn, ?_⟩
    rw [abs_value]
    exact (isFinite_iff (onlyDigits_of_read? hn)).mp finite
  · rintro ⟨x, hx, small⟩
    obtain ⟨n, hn, rfl⟩ := hx.exists_read?
    rw [abs_value] at small
    exact ⟨n, hn, (isFinite_iff (onlyDigits_of_read? hn)).mpr small⟩

end Plant.Number
