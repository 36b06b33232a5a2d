import Plant.Number.Numeral
import Plant.Text.Blank

/-!
# Characters of numerals

A text that reads as a numeral consists of digits, signs, a point and an exponent mark only, so it
has neither blanks nor equals signs in it. The same holds of decimal texts, and these read back as
the number that they were written for.

Results:
1. `Numeral.numeric_of_read?`: the characters of a numeral.
2. `ofDigits_decimal`: decimal texts read back.
-/
namespace Plant.Number

/-- The characters that a numeral is made of. -/
def Numeric (c : Char) : Prop := c.isDigit = true ∨ c ∈ ['+', '-', '.', 'e', 'E']

theorem Numeric.ne_equals {c : Char} (h : Numeric c) : c ≠ '=' := by
  rintro rfl
  revert h
  unfold Numeric
  decide

theorem Numeric.isBlank_eq {c : Char} (h : Numeric c) : Text.isBlank c = false := by
  rcases h with h | h
  · have digit : 48 ≤ c.toNat ∧ c.toNat ≤ 57 := by simpa [Char.isDigit, UInt32.le_iff_toNat_le] using h
    simp [Text.isBlank]
    omega
  · simp only [List.mem_cons, List.not_mem_nil, or_false] at h
    rcases h with rfl | rfl | rfl | rfl | rfl <;> decide

/-! ## Numerals -/

namespace Numeral

theorem numeric_of_takeSign {cs : List Char} (h : ∀ c ∈ (takeSign cs).2, Numeric c) :
    ∀ c ∈ cs, Numeric c := by
  unfold takeSign at h
  split at h
  case h_1 => exact List.forall_mem_cons.mpr ⟨.inr (by decide), h⟩
  case h_2 => exact List.forall_mem_cons.mpr ⟨.inr (by decide), h⟩
  case h_3 => exact h

theorem numeric_of_takeDigits {cs : List Char} (h : ∀ c ∈ (takeDigits cs).2, Numeric c) :
    ∀ c ∈ cs, Numeric c := by
  have digits : (cs.takeWhile Char.isDigit).all Char.isDigit = true := List.all_takeWhile
  intro c hc
  rw [← List.takeWhile_append_dropWhile (p := Char.isDigit) (l := cs), List.mem_append] at hc
  rcases hc with hc | hc
  · exact .inl (List.all_eq_true.mp digits c hc)
  · exact h c hc

theorem numeric_of_takeFraction {cs : List Char} (h : ∀ c ∈ (takeFraction cs).2, Numeric c) :
    ∀ c ∈ cs, Numeric c := by
  unfold takeFraction at h
  split at h
  case h_1 => exact List.forall_mem_cons.mpr ⟨.inr (by decide), numeric_of_takeDigits h⟩
  case h_2 => exact h

theorem numeric_of_exponent? {cs : List Char} {e : Option Exponent} (h : exponent? cs = some e) :
    ∀ c ∈ cs, Numeric c := by
  unfold exponent? at h
  split at h
  case h_1 => exact List.forall_mem_nil _
  case h_2 c cs =>
    obtain ⟨⟨mark, -, digits⟩, -⟩ := Option.ite_none_right_eq_some.mp h
    refine List.forall_mem_cons.mpr ⟨.inr ?_, numeric_of_takeSign fun d hd => ?_⟩
    · rcases mark with rfl | rfl <;> decide
    · exact .inl (List.all_eq_true.mp digits d hd)

theorem numeric_of_read? {cs : List Char} {n : Numeral} (h : read? cs = some n) :
    ∀ c ∈ cs, Numeric c := by
  obtain ⟨-, h⟩ := Option.ite_none_left_eq_some.mp h
  obtain ⟨e, he, -⟩ := Option.map_eq_some_iff.mp h
  exact numeric_of_takeSign (numeric_of_takeDigits (numeric_of_takeFraction
    (numeric_of_exponent? he)))

theorem ne_nil_of_read? {cs : List Char} {n : Numeral} (h : read? cs = some n) : cs ≠ [] := by
  rintro rfl
  cases h

end Numeral

/-! ## Decimal texts -/

theorem toList_decimal (n : Nat) : (decimal n).toList = Nat.toDigits 10 n := String.toList_ofList

theorem toList_decimal_ne_nil (n : Nat) : (decimal n).toList ≠ [] := by
  rw [toList_decimal]
  exact Nat.toDigits_ne_nil

theorem isDigit_of_mem_decimal {n : Nat} {c : Char} (hc : c ∈ (decimal n).toList) :
    c.isDigit = true := by
  rw [toList_decimal] at hc
  exact Nat.isDigit_of_mem_toDigits (by decide) (by decide) hc

theorem numeric_decimal (n : Nat) : ∀ c ∈ (decimal n).toList, Numeric c :=
  fun _ hc => .inl (isDigit_of_mem_decimal hc)

theorem ofDigits_decimal (n : Nat) : ofDigits (decimal n).toList = n := by
  rw [toList_decimal]
  exact Nat.ofDigitChars_ten_toDigits

end Plant.Number
