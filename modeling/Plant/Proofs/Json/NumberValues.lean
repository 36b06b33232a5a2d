import Mathlib.Data.List.TakeWhile
import Plant.Proofs.Json.Numbers

/-!
# The values of numbers

Which numbers are read. Integers of 64 bits are read exactly. Any other number is read part by part:
the digits of the whole part, those of the fraction, which go on from the number that the others
make, and the exponent. The reader knows no more of the parts before than this number and a power of
ten, and in the end it scales the one by the other.

Results:
1. `scale_eq_ok_iff`: the magnitude of a scaled number.
2. `exists_kept`, `takeSignificand_append_of_kept`: the digits that are kept.
3. `readNumber_integerText`: an integer of 64 bits is read as itself.
4. `readUnsigned_scaled`: any other number is scaled.
5. `realText_iff`: a floating-point number is written by the texts that it is read from.
-/
namespace Plant.Json

open NumberLemmas Plant.Number

variable {cs ds rest v w f e kept left kept' left' : List Char} {c d : Char} {n m : Nat} {k : Int}

/-! ## Scaled numbers -/

namespace RealLemmas

theorem scale_natCast (n k : Nat) : scale n k =
    if n = 0 then .ok 0
    else if 308 < k then .error .malformed
    else if Binary64.mul (Binary64.nearest n 1) (powerOfTen k) < Binary64.infinity then
      .ok (Binary64.mul (Binary64.nearest n 1) (powerOfTen k))
    else .error .malformed := rfl

theorem scale_neg (n : Nat) {k : Nat} (positive : 0 < k) : scale n (-k) =
    if k ≤ 308 then .ok (Binary64.div (Binary64.nearest n 1) (powerOfTen k))
    else if k ≤ 616 then
      .ok (Binary64.div (Binary64.div (Binary64.nearest n 1) (powerOfTen 308))
        (powerOfTen (k - 308)))
    else .ok 0 := by
  obtain ⟨k, rfl⟩ := Nat.exists_eq_add_one.mpr positive
  rfl

theorem cases_of_int (k : Int) : (∃ i : Nat, k = i) ∨ ∃ i : Nat, 0 < i ∧ k = -i := by
  cases k with
  | ofNat i => exact .inl ⟨i, rfl⟩
  | negSucc i => exact .inr ⟨i + 1, i.succ_pos, rfl⟩

end RealLemmas

open RealLemmas

/-- The magnitude of a scaled number is the one that the grammar gives. -/
theorem scale_eq_ok_iff : scale n k = .ok m ↔ Scaled n k m := by
  constructor
  · intro h
    rcases cases_of_int k with ⟨k, rfl⟩ | ⟨k, positive, rfl⟩
    · rw [scale_natCast] at h
      split at h
      case isTrue zero =>
        cases h
        exact .zero k zero
      case isFalse nonzero =>
        split at h
        case isTrue => cases h
        case isFalse small =>
          split at h
          case isTrue finite =>
            cases h
            exact .multiplied nonzero (Nat.not_lt.mp small) rfl finite
          case isFalse => cases h
    · rw [scale_neg n positive] at h
      split at h
      case isTrue small =>
        cases h
        exact .divided positive small
      case isFalse large =>
        split at h
        case isTrue small =>
          obtain rfl := Except.ok.inj h
          exact .dividedTwice (Nat.not_le.mp large) small
        case isFalse larger =>
          cases h
          exact .vanishing (Nat.not_le.mp larger)
  · intro h
    cases h with
    | zero k zero => exact if_pos zero
    | multiplied nonzero small product finite =>
      subst product
      rw [scale_natCast, if_neg nonzero, if_neg (Nat.not_lt.mpr small), if_pos finite]
    | divided positive small => rw [scale_neg n positive, if_pos small]
    | dividedTwice large small =>
      rw [scale_neg n (Nat.zero_lt_of_lt large), if_neg (Nat.not_le.mpr large), if_pos small]
    | vanishing large =>
      rw [scale_neg n (Nat.zero_lt_of_lt large), if_neg (by omega), if_neg (Nat.not_le.mpr large)]

/-! ## Digits that are kept -/

namespace RealLemmas

theorem ofDigitChars_cons (d : Char) (ds : List Char) (n : Nat) :
    Nat.ofDigitChars 10 (d :: ds) n = Nat.ofDigitChars 10 ds (n * 10 + digit d) := by
  rw [Nat.ofDigitChars_cons, Nat.mul_comm]
  rfl

theorem le_ofDigitChars (ds : List Char) (n : Nat) : n ≤ Nat.ofDigitChars 10 ds n := by
  induction ds generalizing n with
  | nil => exact Nat.le_refl n
  | cons d ds ih =>
    rw [ofDigitChars_cons]
    exact Nat.le_trans (by omega) (ih _)

theorem kept_of_nil (h : Kept n [] kept left) : kept = [] ∧ left = [] :=
  List.append_eq_nil_iff.mp h.split.symm

/-- A digit with which the number still has 64 bits is the first that is kept. -/
theorem kept_cons_iff (fits : n * 10 + digit d < UInt64.size) :
    Kept n (d :: ds) kept left ↔
      ∃ kept', kept = d :: kept' ∧ Kept (n * 10 + digit d) ds kept' left := by
  constructor
  · rintro ⟨split, small, full⟩
    cases kept with
    | nil =>
      subst split
      have full := full d rfl
      rw [List.nil_append, ofDigitChars_cons] at full
      exact absurd fits (Nat.not_lt.mpr full)
    | cons d' kept =>
      obtain ⟨rfl, later⟩ := List.cons.inj split
      rw [ofDigitChars_cons] at small
      refine ⟨kept, rfl, later, small, fun c hc => ?_⟩
      rw [← ofDigitChars_cons]
      exact full c hc
  · rintro ⟨kept, rfl, split, small, full⟩
    refine ⟨congrArg (d :: ·) split, ?_, fun c hc => ?_⟩
    · rwa [ofDigitChars_cons]
    · rw [List.cons_append, ofDigitChars_cons]
      exact full c hc

/-- No digits are kept from the first on that does not fit. -/
theorem kept_cons_iff_of_full (small : n < UInt64.size)
    (full : UInt64.size ≤ n * 10 + digit d) :
    Kept n (d :: ds) kept left ↔ kept = [] ∧ left = d :: ds := by
  constructor
  · rintro ⟨split, small, -⟩
    cases kept with
    | nil => exact ⟨rfl, split.symm⟩
    | cons d' kept =>
      obtain ⟨rfl, -⟩ := List.cons.inj split
      rw [ofDigitChars_cons] at small
      exact absurd (Nat.le_trans full (le_ofDigitChars kept _)) (Nat.not_le.mpr small)
  · rintro ⟨rfl, rfl⟩
    refine ⟨rfl, small, fun c hc => ?_⟩
    cases hc
    rwa [List.nil_append, ofDigitChars_cons]

end RealLemmas

/-- Of the digits behind a number of 64 bits some are kept. -/
theorem exists_kept (small : n < UInt64.size) (ds : List Char) :
    ∃ kept left, Kept n ds kept left := by
  induction ds generalizing n with
  | nil => exact ⟨[], [], rfl, small, fun _ h => nomatch h⟩
  | cons d ds ih =>
    by_cases fits : n * 10 + digit d < UInt64.size
    · obtain ⟨kept, left, h⟩ := ih fits
      exact ⟨_, left, (kept_cons_iff fits).mpr ⟨kept, rfl, h⟩⟩
    · exact ⟨_, _, (kept_cons_iff_of_full small (Nat.not_lt.mp fits)).mpr ⟨rfl, rfl⟩⟩

/-- The reader keeps these digits, and leaves the others before what follows. -/
theorem takeSignificand_append_of_kept (h : Kept n ds kept left) (small : n < UInt64.size)
    (hds : ∀ c ∈ ds, c.isDigit = true) (stop : NoDigit rest) (taken : Nat) :
    takeSignificand n taken (ds ++ rest) =
      (Nat.ofDigitChars 10 kept n, taken + kept.length, left ++ rest) := by
  induction ds generalizing n taken kept with
  | nil =>
    obtain ⟨rfl, rfl⟩ := kept_of_nil h
    cases rest with
    | nil => rfl
    | cons c rest => exact if_neg fun both => by simp [stop c rfl] at both
  | cons d ds ih =>
    rw [List.forall_mem_cons] at hds
    rw [List.cons_append, takeSignificand]
    by_cases fits : n * 10 + digit d < UInt64.size
    case pos =>
      obtain ⟨kept, rfl, later⟩ := (kept_cons_iff fits).mp h
      rw [if_pos ⟨hds.1, fits⟩, ih later fits hds.2, ofDigitChars_cons, List.length_cons,
        Nat.add_right_comm, Nat.add_assoc]
    case neg =>
      obtain ⟨rfl, rfl⟩ := (kept_cons_iff_of_full small (Nat.not_lt.mp fits)).mp h
      rw [if_neg fun both => fits both.2]
      rfl

/-! ## The parts of a number -/

namespace RealLemmas

variable {negative : Bool}

theorem readExponent_digits (sign : takeExponentSign cs = (negative, ds)) (hds : Digits ds) :
    readExponent cs = .ok (if negative then -ofDigits ds else ofDigits ds, []) := by
  have all : ds.takeWhile Char.isDigit = ds := List.takeWhile_eq_self_iff.mpr hds.isDigit
  have nothing : ds.dropWhile Char.isDigit = [] := List.dropWhile_eq_nil_iff.mpr hds.isDigit
  unfold readExponent
  rw [sign]
  cases ds with
  | nil => exact absurd rfl hds.ne_nil
  | cons d ds =>
    dsimp only
    rw [if_pos (hds.isDigit d List.mem_cons_self), all, nothing]

theorem readScaled_exponent (he : Exponent k e) (negative : Bool) (n : Nat) (exponent : Int) :
    readScaled negative n exponent e = (makeReal negative n (exponent + k)).map (·, []) := by
  have marked {mark : Char} (hm : mark ∈ ['e', 'E']) {cs : List Char} {k : Int}
      (h : readExponent cs = .ok (k, [])) : readScaled negative n exponent (mark :: cs) =
        (makeReal negative n (exponent + k)).map (·, []) := by
    have mark : mark = 'e' ∨ mark = 'E' := List.mem_pair.mp hm
    rw [readScaled, if_pos mark, h]
    show (makeReal negative n (exponent + k) >>= _) = _
    cases makeReal negative n (exponent + k) <;> rfl
  cases he with
  | none =>
    rw [Int.add_zero, readScaled]
    cases makeReal negative n exponent <;> rfl
  | @unsigned mark ds hm hds =>
    have sign := takeExponentSign_digits hds []
    rw [List.append_nil] at sign
    exact marked hm (readExponent_digits sign hds)
  | plus hm hds => exact marked hm (readExponent_digits rfl hds)
  | minus hm hds => exact marked hm (readExponent_digits rfl hds)

theorem noDigit_of_exponent (he : Exponent k e) : NoDigit e := by
  have stop := noDigit_exponent he ends_nil
  rwa [List.append_nil] at stop

/-- Behind the whole part there is a fraction, an exponent, or digits that were left off. -/
theorem readTail_eq (hf : Fraction ds f) (he : Exponent k e) (h : Kept n ds kept left)
    (small : n < UInt64.size) {dropped : Nat} (other : f ++ e = [] → dropped ≠ 0)
    (negative : Bool) : readTail negative n dropped (f ++ e) =
      (makeReal negative (Nat.ofDigitChars 10 kept n) (dropped - kept.length + k)).map (·, []) := by
  cases hf with
  | none =>
    obtain ⟨rfl, rfl⟩ := kept_of_nil h
    have scaled : readTail negative n dropped e = readScaled negative n dropped e := by
      cases he with
      | none => exact if_neg (other rfl)
      | unsigned hm | plus hm | minus hm => rcases List.mem_pair.mp hm with rfl | rfl <;> rfl
    rw [List.nil_append, scaled, readScaled_exponent he]
    exact congrArg (fun i => (makeReal negative n (i + k)).map (·, [])) (Int.sub_zero _).symm
  | digits hds =>
    have digits : ∀ c ∈ left, c.isDigit = true := fun c hc =>
      hds.isDigit c (h.split ▸ List.mem_append_right kept hc)
    have taken := takeSignificand_append_of_kept h small hds.isDigit (noDigit_of_exponent he) 0
    rw [Nat.zero_add] at taken
    cases ds with
    | nil => exact absurd rfl hds.ne_nil
    | cons d ds =>
      show readFraction negative n dropped (d :: (ds ++ e)) = _
      rw [readFraction, if_pos (hds.isDigit d List.mem_cons_self), ← List.cons_append, taken]
      dsimp only
      rw [List.dropWhile_append_of_pos digits,
        dropWhile_isDigit_of_noDigit (noDigit_of_exponent he), readScaled_exponent he]

/-- The digits of the whole part come first. -/
theorem readUnsigned_eq (hw : Whole w) (h : Kept 0 w kept left) (stop : NoDigit rest)
    (negative : Bool) : readUnsigned negative (w ++ rest) =
      readTail negative (ofDigits kept) left.length rest := by
  cases w with
  | nil => exact absurd rfl hw.ne_nil
  | cons c ds =>
    obtain ⟨hc, hds⟩ := List.forall_mem_cons.mp hw.isDigit
    have fits : 0 * 10 + digit c < UInt64.size := by
      have small : c.toNat < 2 ^ 32 := c.val.toNat_lt
      show 0 * 10 + (c.toNat - 48) < 2 ^ 64
      omega
    obtain ⟨kept, rfl, later⟩ := (kept_cons_iff fits).mp h
    have value : ofDigits (c :: kept) = Nat.ofDigitChars 10 kept (digit c) := by
      rw [ofDigits, ofDigitChars_cons, Nat.zero_mul, Nat.zero_add]
    rw [Nat.zero_mul, Nat.zero_add] at later fits
    simp only [List.cons_append, readUnsigned, hc, Bool.not_true, Bool.false_eq_true, if_false]
    split
    case isTrue zero =>
      subst zero
      cases hw.leading ds rfl
      obtain ⟨rfl, rfl⟩ := kept_of_nil later
      rw [List.nil_append, startsWithDigit_of_noDigit stop]
      rfl
    case isFalse other =>
      have digits : ∀ c ∈ left, c.isDigit = true := fun c hc =>
        hds c (later.split ▸ List.mem_append_right kept hc)
      rw [takeSignificand_append_of_kept later fits hds stop 1, value]
      dsimp only
      rw [List.takeWhile_append_of_pos digits, takeWhile_isDigit_of_noDigit stop, List.append_nil,
        List.dropWhile_append_of_pos digits, dropWhile_isDigit_of_noDigit stop]

theorem noDigit_of_parts (hf : Fraction ds f) (he : Exponent k e) : NoDigit (f ++ e) := by
  have stop := noDigit_fraction hf he ends_nil
  rwa [List.append_nil] at stop

theorem readNumber_whole (hw : Whole w) (rest : List Char) :
    readNumber (w ++ rest) = readUnsigned false (w ++ rest) := by
  refine readNumber_of_ne_minus fun minus => ?_
  cases w with
  | nil => exact hw.ne_nil rfl
  | cons c w =>
    cases minus
    exact absurd (hw.isDigit '-' List.mem_cons_self) (by decide)

/-! ## Integers -/

/-- All digits are kept of a whole part of 64 bits, and of no other. -/
theorem kept_self_iff : Kept 0 w w [] ↔ ofDigits w < UInt64.size :=
  ⟨fun h => h.small, fun small => ⟨(List.append_nil w).symm, small, fun _ h => nomatch h⟩⟩

theorem readUnsigned_whole (hw : Whole w) (small : ofDigits w < UInt64.size) (negative : Bool) :
    readUnsigned negative w = .ok (makeInteger negative (ofDigits w), []) := by
  have nothing : NoDigit [] := fun _ h => nomatch h
  have read := readUnsigned_eq hw (kept_self_iff.mpr small) nothing negative
  rwa [List.append_nil] at read

theorem toReal_makeInteger (negative : Bool) (n : Nat) :
    (makeInteger negative n).toReal = .ofMagnitude negative (Binary64.nearest n 1) := by
  have positive : Binary64.ofInt n = .ofMagnitude false (Binary64.nearest n 1) := by
    have sign : ¬ (n : Int) < 0 := Int.not_lt.mpr (Int.natCast_nonneg n)
    rw [Binary64.ofInt, decide_eq_false sign, Int.natAbs_natCast]
  cases negative with
  | false => exact positive
  | true =>
    rw [makeInteger, if_pos rfl]
    split
    case isTrue signed =>
      have sign : -(n : Int) < 0 := Int.neg_neg_of_pos (Int.natCast_pos.mpr signed.1)
      show Binary64.ofInt (-n) = _
      rw [Binary64.ofInt, decide_eq_true sign, Int.natAbs_neg, Int.natAbs_natCast]
    case isFalse => rfl

end RealLemmas

/-- An integer of 64 bits, with or without a sign, is read as itself. -/
theorem readNumber_integerText {i : Int} (hv : IntegerText i v)
    (range : Int64.minValue.toInt ≤ i ∧ i < UInt64.size) (h : Ends rest) :
    readNumber (v ++ rest) = .ok (.integer i, rest) := by
  have range : -2 ^ 63 ≤ i ∧ i < 2 ^ 64 := range
  suffices hn : readNumber v = .ok (.integer i, []) from readNumber_append h hn
  cases hv with
  | unsigned hw =>
    have small : ofDigits v < UInt64.size := show ofDigits v < 2 ^ 64 by omega
    have whole := readNumber_whole hw []
    rw [List.append_nil] at whole
    rw [whole, readUnsigned_whole hw small]
    rfl
  | @negative w hw nonzero =>
    have signed : 0 < ofDigits w ∧ ofDigits w ≤ Nat.pow 2 63 :=
      ⟨Nat.pos_of_ne_zero nonzero, show ofDigits w ≤ 2 ^ 63 by omega⟩
    have small : ofDigits w < UInt64.size := Nat.lt_of_le_of_lt signed.2 (by decide)
    show readUnsigned true w = _
    rw [readUnsigned_whole hw small, makeInteger, if_pos rfl, if_pos signed]

/-! ## Floating-point numbers -/

/-- A number without its sign that is no integer of 64 bits is the scaled number of its digits. -/
theorem readUnsigned_scaled (hw : Whole w) (hf : Fraction ds f) (he : Exponent k e)
    (other : f ++ e = [] → UInt64.size ≤ ofDigits w) (h : Kept 0 w kept left)
    (h' : Kept (ofDigits kept) ds kept' left') (negative : Bool) :
    readUnsigned negative (w ++ f ++ e) =
      (makeReal negative (ofDigits (kept ++ kept')) (left.length - kept'.length + k)).map
        (·, []) := by
  have dropped (nothing : f ++ e = []) : left.length ≠ 0 := by
    intro none
    cases List.length_eq_zero_iff.mp none
    have all : w = kept := by rw [h.split, List.append_nil]
    subst all
    exact absurd (kept_self_iff.mp h) (Nat.not_lt.mpr (other nothing))
  rw [List.append_assoc, readUnsigned_eq hw h (noDigit_of_parts hf he),
    readTail_eq hf he h' h.small dropped, ofDigits, ofDigits, Nat.ofDigitChars_append]

-- the last digit of the whole part is left off, and the one behind the point is kept
example : readNumber "18446744073709551616.5".toList = .ok (.real ⟨0x43F0000000000000⟩, []) := rfl

namespace RealLemmas

theorem exists_parts (h : MagnitudeText m v) :
    ∃ w ds f e k, v = w ++ f ++ e ∧ Whole w ∧ Fraction ds f ∧ Exponent k e := by
  cases h with
  | integer hw => exact ⟨_, _, _, _, _, by simp, hw, .none, .none⟩
  | scaled hw hf he => exact ⟨_, _, _, _, _, rfl, hw, hf, he⟩

theorem readUnsigned_of_magnitudeText (h : MagnitudeText m v) (negative : Bool) :
    ∃ n, readUnsigned negative v = .ok (n, []) ∧ n.toReal = .ofMagnitude negative m := by
  cases h with
  | integer hw small =>
    exact ⟨_, readUnsigned_whole hw small negative, toReal_makeInteger negative _⟩
  | scaled hw hf he other h h' scaled =>
    refine ⟨.real (.ofMagnitude negative m), ?_, rfl⟩
    rw [readUnsigned_scaled hw hf he other h h', makeReal, scale_eq_ok_iff.mpr scaled]
    rfl

theorem magnitudeText_of_readUnsigned {negative : Bool} {x : Numeric} (hw : Whole w)
    (hf : Fraction ds f) (he : Exponent k e)
    (hx : readUnsigned negative (w ++ f ++ e) = .ok (x, [])) :
    ∃ m, MagnitudeText m (w ++ f ++ e) ∧ x.toReal = .ofMagnitude negative m := by
  by_cases integer : f ++ e = [] ∧ ofDigits w < UInt64.size
  case pos =>
    obtain ⟨nothing, small⟩ := integer
    rw [List.append_assoc, nothing, List.append_nil] at hx ⊢
    rw [readUnsigned_whole hw small] at hx
    cases hx
    exact ⟨_, .integer hw small, toReal_makeInteger negative _⟩
  case neg =>
    have other (nothing : f ++ e = []) : UInt64.size ≤ ofDigits w :=
      Nat.not_lt.mp fun small => integer ⟨nothing, small⟩
    obtain ⟨kept, left, h⟩ := exists_kept (show 0 < UInt64.size by decide) w
    obtain ⟨kept', left', h'⟩ := exists_kept h.small ds
    rw [readUnsigned_scaled hw hf he other h h', makeReal] at hx
    cases scaled : scale (ofDigits (kept ++ kept')) (left.length - kept'.length + k) with
    | error fault =>
      rw [scaled] at hx
      cases hx
    | ok m =>
      rw [scaled] at hx
      cases hx
      exact ⟨m, .scaled hw hf he other h h' (scale_eq_ok_iff.mp scaled), rfl⟩

end RealLemmas

/-- A floating-point number is written exactly by the numbers that it is read from. -/
theorem realText_iff {x : Binary64} : RealText x v ↔
    NumberText v ∧ ∃ n, readNumber v = .ok (n, []) ∧ n.toReal = x := by
  constructor
  · rintro (hm | hm)
    all_goals obtain ⟨w, ds, f, e, k, rfl, hw, hf, he⟩ := exists_parts hm
    · refine ⟨.unsigned hw hf he, ?_⟩
      rw [List.append_assoc, readNumber_whole hw, ← List.append_assoc]
      exact readUnsigned_of_magnitudeText hm false
    · exact ⟨.negative hw hf he, readUnsigned_of_magnitudeText hm true⟩
  · rintro ⟨number, n, hn, rfl⟩
    cases number with
    | unsigned hw hf he =>
      rw [List.append_assoc, readNumber_whole hw, ← List.append_assoc] at hn
      obtain ⟨m, hm, value⟩ := magnitudeText_of_readUnsigned hw hf he hn
      rw [value]
      exact .unsigned hm
    | negative hw hf he =>
      change readUnsigned true _ = _ at hn
      obtain ⟨m, hm, value⟩ := magnitudeText_of_readUnsigned hw hf he hn
      rw [value]
      exact .negative hm

end Plant.Json
