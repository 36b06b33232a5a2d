import Mathlib.Tactic.Ring
import Plant.Number.Binary64
import Plant.Proofs.Number.Magnitude

/-!
# Rounding to infinity

The greatest finite number is `2^1024 - 2^971`, and the next one would be `2^1024`. So a fraction is
rounded to a finite number exactly if it is below the middle between the two: in the middle the even
one counts, and that is the infinity.

Result: `nearest_lt_infinity_iff`.
-/
namespace Plant.Number.Binary64

variable {n d : Nat}

namespace RoundingLemmas

/-- A quotient is rounded to less than an even number exactly if it is less than half a step below
it; if it is just there, the number before is odd. -/
theorem divRound_lt_iff (hd : 0 < d) (n k : Nat) :
    divRound n d < 2 * k + 2 ↔ 2 * n < (4 * k + 3) * d := by
  have parts : d * (n / d) + n % d = n := Nat.div_add_mod n d
  have rest : n % d < d := Nat.mod_lt n hd
  unfold divRound
  generalize n / d = q at parts ⊢
  generalize n % d = r at parts rest ⊢
  subst parts
  have right : (4 * k + 3) * d = 4 * (d * k) + 3 * d := by ring
  rcases Nat.lt_trichotomy q (2 * k + 1) with h | h | h
  · have small : d * q ≤ 2 * (d * k) :=
      calc
        d * q ≤ d * (2 * k) := Nat.mul_le_mul_left d (by omega)
        _ = 2 * (d * k) := by ring
    refine iff_of_true ?_ (by omega)
    dsimp only
    split <;> omega
  · have middle : d * q = 2 * (d * k) + d := by rw [h]; ring
    rw [right, middle]
    dsimp only
    split <;> omega
  · have large : 2 * (d * k) + 2 * d ≤ d * q :=
      calc
        2 * (d * k) + 2 * d = d * (2 * k + 2) := by ring
        _ ≤ d * q := Nat.mul_le_mul_left d (by omega)
    refine iff_of_false ?_ (by omega)
    dsimp only
    split <;> omega

theorem divRound_lt_iff_div (hd : 0 < d) (n k : Nat) :
    divRound n d < 2 * k + 2 ↔ (n : ℚ) / d < (4 * k + 3) / 2 := by
  rw [divRound_lt_iff hd, div_lt_div_iff₀ (Nat.cast_pos.mpr hd) (by norm_num), mul_comm (n : ℚ)]
  exact_mod_cast Iff.rfl

theorem two_zpow_pos (e : Int) : (0 : ℚ) < 2 ^ e := zpow_pos (by norm_num) e

theorem zpow_log2_le (hn : n ≠ 0) : (2 : ℚ) ^ (n.log2 : Int) ≤ n := by
  rw [zpow_natCast]
  exact_mod_cast Nat.log2_self_le hn

theorem lt_zpow_log2 (n : Nat) : (n : ℚ) < 2 ^ ((n.log2 : Int) + 1) := by
  rw [← Nat.cast_succ, zpow_natCast]
  exact_mod_cast Nat.lt_log2_self

/-- Whether a power of two is reached is found without fractions. -/
theorem reached_iff (hd : 0 < d) (k : Int) :
    (match k with
      | .ofNat i => decide (d * Nat.pow 2 i ≤ n)
      | .negSucc i => decide (d ≤ n * Nat.pow 2 (i + 1))) = true ↔ (2 : ℚ) ^ k ≤ n / d := by
  rw [le_div_iff₀ (Nat.cast_pos.mpr hd)]
  cases k with
  | ofNat i =>
    rw [decide_eq_true_eq, Int.ofNat_eq_natCast, zpow_natCast, mul_comm]
    exact_mod_cast Iff.rfl
  | negSucc i =>
    rw [decide_eq_true_eq, zpow_negSucc, inv_mul_le_iff₀ (by positivity), mul_comm]
    exact_mod_cast Iff.rfl

theorem floorLog_spec (hn : n ≠ 0) (hd : 0 < d) :
    (2 : ℚ) ^ floorLog n d ≤ n / d ∧ (n : ℚ) / d < 2 ^ (floorLog n d + 1) := by
  have two : (2 : ℚ) ≠ 0 := by norm_num
  have positive : (0 : ℚ) < d := Nat.cast_pos.mpr hd
  have upper : (n : ℚ) / d < 2 ^ ((n.log2 : Int) - d.log2 + 1) := by
    rw [div_lt_iff₀ positive]
    calc
      (n : ℚ) < 2 ^ ((n.log2 : Int) + 1) := lt_zpow_log2 n
      _ = 2 ^ ((n.log2 : Int) - d.log2 + 1) * 2 ^ (d.log2 : Int) := by
        rw [← zpow_add₀ two]; congr 1; omega
      _ ≤ 2 ^ ((n.log2 : Int) - d.log2 + 1) * d :=
        mul_le_mul_of_nonneg_left (zpow_log2_le hd.ne') (two_zpow_pos _).le
  have lower : (2 : ℚ) ^ ((n.log2 : Int) - d.log2 - 1) ≤ n / d := by
    rw [le_div_iff₀ positive]
    calc
      (2 : ℚ) ^ ((n.log2 : Int) - d.log2 - 1) * d
          ≤ 2 ^ ((n.log2 : Int) - d.log2 - 1) * 2 ^ ((d.log2 : Int) + 1) :=
        mul_le_mul_of_nonneg_left (lt_zpow_log2 d).le (two_zpow_pos _).le
      _ = 2 ^ (n.log2 : Int) := by rw [← zpow_add₀ two]; congr 1; omega
      _ ≤ n := zpow_log2_le hn
  by_cases reached : (2 : ℚ) ^ ((n.log2 : Int) - d.log2) ≤ n / d
  · have log : floorLog n d = n.log2 - d.log2 := if_pos ((reached_iff hd _).mpr reached)
    rw [log]
    exact ⟨reached, upper⟩
  · have log : floorLog n d = n.log2 - d.log2 - 1 := if_neg (mt (reached_iff hd _).mp reached)
    rw [log, Int.sub_add_cancel]
    exact ⟨lower, not_le.mp reached⟩

/-- The significand is the fraction in steps of a power of two, rounded. -/
theorem significand_lt_iff (hd : 0 < d) (n k : Nat) (e : Int) :
    (match e with
      | .ofNat i => divRound n (d * Nat.pow 2 i)
      | .negSucc i => divRound (n * Nat.pow 2 (i + 1)) d) < 2 * k + 2 ↔
        (n : ℚ) / d < (4 * k + 3) / 2 * 2 ^ e := by
  rw [← div_lt_iff₀ (two_zpow_pos e)]
  cases e with
  | ofNat i =>
    have positive : 0 < d * Nat.pow 2 i := Nat.mul_pos hd (Nat.pow_pos (by decide))
    dsimp only
    rw [divRound_lt_iff_div positive, Int.ofNat_eq_natCast, zpow_natCast, div_div, Nat.cast_mul,
      Nat.pow_eq, Nat.cast_pow]
    rfl
  | negSucc i =>
    dsimp only
    rw [divRound_lt_iff_div hd, zpow_negSucc, div_inv_eq_mul, Nat.cast_mul, Nat.pow_eq,
      Nat.cast_pow, mul_div_right_comm]
    rfl

/-- The exponent of a fraction is that of the power of two below it, unless it is subnormal. -/
theorem nearest_spec (hn : n ≠ 0) (hd : 0 < d) :
    ∃ log e : Int, ∃ m : Nat, (2 : ℚ) ^ log ≤ n / d ∧ (n : ℚ) / d < 2 ^ (log + 1) ∧
      e = max (log - 52) (-1074) ∧ nearest n d = (e + 1074).toNat * 2 ^ 52 + m ∧
      ∀ k : Nat, m < 2 * k + 2 ↔ (n : ℚ) / d < (4 * k + 3) / 2 * 2 ^ e := by
  obtain ⟨lower, upper⟩ := floorLog_spec hn hd
  exact ⟨floorLog n d, _, _, lower, upper, rfl, if_neg hn, fun k => significand_lt_iff hd n k _⟩

theorem bound_eq : (2 : ℚ) ^ 1024 - 2 ^ 970 = (2 ^ 54 - 1) * 2 ^ (970 : Int) := by
  have split : (2 : ℚ) ^ (54 + 970) = 2 ^ 54 * 2 ^ 970 := pow_add 2 54 970
  have cast : (2 : ℚ) ^ (970 : Int) = 2 ^ 970 := zpow_natCast 2 970
  rw [cast, sub_mul, one_mul, ← split]

/-! ## The three ranges of exponents -/

variable {x : ℚ} {log e : Int} {m : Nat}

theorem lt_bound_of_lt (upper : x < 2 ^ (log + 1)) (h : log < 1023) :
    x < (2 ^ 54 - 1) * 2 ^ (970 : Int) :=
  calc
    x < 2 ^ (log + 1) := upper
    _ ≤ 2 ^ ((53 : Int) + 970) := zpow_le_zpow_right₀ (by norm_num) (by omega)
    _ = 2 ^ (53 : Int) * 2 ^ (970 : Int) := zpow_add₀ (by norm_num) 53 970
    _ ≤ (2 ^ 54 - 1) * 2 ^ (970 : Int) :=
      mul_le_mul_of_nonneg_right (by norm_num) (two_zpow_pos _).le

theorem bound_le_of_lt (lower : 2 ^ log ≤ x) (h : 1023 < log) :
    (2 ^ 54 - 1) * 2 ^ (970 : Int) ≤ x :=
  calc
    (2 ^ 54 - 1) * 2 ^ (970 : Int) ≤ 2 ^ (54 : Int) * 2 ^ (970 : Int) :=
      mul_le_mul_of_nonneg_right (by norm_num) (two_zpow_pos _).le
    _ = 2 ^ ((54 : Int) + 970) := (zpow_add₀ (by norm_num) 54 970).symm
    _ ≤ 2 ^ log := zpow_le_zpow_right₀ (by norm_num) (by omega)
    _ ≤ x := lower

/-- The significand has no more than 53 bits, but for what rounding may carry into the next one. -/
theorem significand_lt (significand : ∀ k : Nat, m < 2 * k + 2 ↔ x < (4 * k + 3) / 2 * 2 ^ e)
    (upper : x < 2 ^ (log + 1)) (h : log ≤ e + 52) : m < 2 ^ 53 + 2 := by
  refine (significand (2 ^ 52)).mpr ?_
  calc
    x < 2 ^ (log + 1) := upper
    _ ≤ 2 ^ (53 + e) := zpow_le_zpow_right₀ (by norm_num) (by omega)
    _ = 2 ^ (53 : Int) * 2 ^ e := zpow_add₀ (by norm_num) 53 e
    _ ≤ _ := mul_le_mul_of_nonneg_right (by norm_num) (two_zpow_pos e).le

/-- The first of the 53 bits is set unless the number is subnormal. -/
theorem le_significand (significand : ∀ k : Nat, m < 2 * k + 2 ↔ x < (4 * k + 3) / 2 * 2 ^ e)
    (lower : 2 ^ log ≤ x) (h : log = e + 52) : 2 ^ 52 ≤ m := by
  have normal : ¬ m < 2 * (2 ^ 51 - 1) + 2 := by
    rw [significand, not_lt]
    calc
      _ ≤ (2 : ℚ) ^ (52 : Int) * 2 ^ e :=
        mul_le_mul_of_nonneg_right (by norm_num) (two_zpow_pos _).le
      _ = 2 ^ log := by rw [← zpow_add₀ (by norm_num), h, add_comm]
      _ ≤ x := lower
  omega

end RoundingLemmas

open RoundingLemmas

/-- A fraction is rounded to a finite number exactly if it is below the bound. -/
theorem nearest_lt_infinity_iff (hd : 0 < d) (n : Nat) :
    nearest n d < infinity ↔ (n : ℚ) / d < 2 ^ 1024 - 2 ^ 970 := by
  have infinite : infinity = 2047 * 2 ^ 52 := rfl
  rw [bound_eq, infinite]
  by_cases hn : n = 0
  · rw [hn, Nat.cast_zero, zero_div]
    refine iff_of_true ?_ (mul_pos (by norm_num) (two_zpow_pos 970))
    rw [nearest, if_pos rfl]
    decide
  obtain ⟨log, e, m, lower, upper, exponent, sum, significand⟩ := nearest_spec hn hd
  rw [sum]
  rcases Int.lt_trichotomy log 1023 with h | rfl | h
  case inl =>
    have carried : m < 2 ^ 53 + 2 := significand_lt significand upper (by omega)
    exact iff_of_true (by omega) (lt_bound_of_lt upper h)
  case inr.inl =>
    -- the last exponent: the significand decides
    have last : e = 970 + 1 := by omega
    have middle : (4 * ((2 ^ 52 - 1 : Nat) : ℚ) + 3) / 2 * 2 ^ ((970 : Int) + 1) =
        (2 ^ 54 - 1) * 2 ^ (970 : Int) := by
      rw [zpow_add_one₀ (by norm_num)]
      generalize (2 : ℚ) ^ (970 : Int) = t
      norm_num
      ring
    rw [last] at significand ⊢
    rw [← middle, ← significand]
    omega
  case inr.inr =>
    have normal : 2 ^ 52 ≤ m := le_significand significand lower (by omega)
    exact iff_of_false (by omega) (not_lt.mpr (bound_le_of_lt lower h))

end Plant.Number.Binary64
