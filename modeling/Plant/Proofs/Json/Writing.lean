import Plant.Proofs.Json.Grammar
import Plant.Proofs.Number.Magnitude
import Plant.Proofs.Number.Numeral

/-!
# Writing texts and numbers

What is written as a text or a number is a text or a number of the grammar. In a text a character is
escaped only where it may not stand as it is, and by a short escape if it has one, so no other
spelling takes fewer characters. A number has no zero in front of other digits.

Results:
1. `quoted_writeText`: what is written as a text is a spelling of it.
2. `length_writeText_le`: no spelling of a text is shorter.
3. `integerText_decimal`: a decimal text is the integer of a document.
-/
namespace Plant.Json

open Plant.Number

variable {c : Char} {text cs v : List Char}

/-! ## Texts -/

namespace WritingLemmas

theorem digitChar_mem : ∀ d < 16, (Nat.digitChar d, d) ∈ hexDigits := by decide

/-- The digits of a control character are those of its UTF-16 unit. -/
theorem hexUnit_control (control : c.toNat < 0x20) :
    HexUnit c.toNat ['0', '0', Nat.digitChar (c.toNat / 16), Nat.digitChar (c.toNat % 16)] := by
  have zero : ('0', 0) ∈ hexDigits := digitChar_mem 0 (by decide)
  have high := digitChar_mem (c.toNat / 16) (by omega)
  have low := digitChar_mem (c.toNat % 16) (by omega)
  have number : ((0 * 16 + 0) * 16 + c.toNat / 16) * 16 + c.toNat % 16 = c.toNat := by omega
  have unit := HexUnit.digits zero zero high low
  rwa [number] at unit

/-- A character has a short escape, or it is a control character, or it stands as it is. -/
theorem escape_cases (c : Char) :
    (∃ e, (e, c) ∈ shortEscapes ∧ escape c = ['\\', e]) ∨
      (c.toNat < 0x20 ∧ escape c = escapeControl c) ∨ (Bare c ∧ escape c = [c]) := by
  unfold escape
  split
  case h_8 quote backslash _ _ _ _ _ =>
    by_cases control : c.toNat < 0x20
    · exact .inr (.inl ⟨control, if_pos control⟩)
    · exact .inr (.inr ⟨⟨Nat.le_of_not_lt control, quote, backslash⟩, if_neg control⟩)
  all_goals exact .inl ⟨_, by decide, rfl⟩

theorem spelled_escape (c : Char) (h : Spelled text cs) :
    Spelled (c :: text) (escape c ++ cs) := by
  obtain ⟨e, short, escaped⟩ | ⟨control, escaped⟩ | ⟨bare, escaped⟩ := escape_cases c
  · rw [escaped]
    exact .short short h
  · rw [escaped]
    exact .unit (hexUnit_control control) h
  · rw [escaped]
    exact .bare bare h

theorem spelled_flatMap_escape (text : List Char) : Spelled text (text.flatMap escape) := by
  induction text with
  | nil => exact .nil
  | cons c text ih => exact spelled_escape c ih

theorem escape_of_bare (h : Bare c) : escape c = [c] := by
  unfold escape
  split
  case h_8 => exact if_neg (Nat.not_lt.mpr h.not_control)
  all_goals exact absurd h (by decide)

theorem length_escape_of_short : ∀ e ∈ shortEscapes, (escape e.2).length ≤ 2 := by decide

theorem length_escape_le (c : Char) : (escape c).length ≤ 6 := by
  obtain ⟨e, -, escaped⟩ | ⟨-, escaped⟩ | ⟨-, escaped⟩ := escape_cases c <;> rw [escaped]
  · exact Nat.le_add_left 2 4
  · exact Nat.le_refl 6
  · exact Nat.le_add_left 1 5

theorem length_of_hexUnit {u : Nat} {ds : List Char} (h : HexUnit u ds) : ds.length = 4 := by
  cases h
  rfl

theorem length_flatMap_escape_le (h : Spelled text cs) :
    (text.flatMap escape).length ≤ cs.length := by
  induction h with
  | nil => exact Nat.le_refl 0
  | bare hc _ ih =>
    rw [List.flatMap_cons, escape_of_bare hc]
    exact Nat.succ_le_succ ih
  | @short e c text cs he _ ih =>
    have own : (escape c).length ≤ 2 := length_escape_of_short _ he
    simp only [List.flatMap_cons, List.length_append, List.length_cons]
    omega
  | @unit c text ds cs hu _ ih =>
    have own := length_escape_le c
    have digits := length_of_hexUnit hu
    simp only [List.flatMap_cons, List.length_append, List.length_cons]
    omega
  | @pair c text hs ls cs _ hh _ _ ih =>
    have own := length_escape_le c
    have digits := length_of_hexUnit hh
    simp only [List.flatMap_cons, List.length_append, List.length_cons]
    omega

theorem toList_writeText (s : String) :
    (writeText s).toList = '"' :: (s.toList.flatMap escape ++ ['"']) := by
  rw [writeText, String.toList_ofList, List.cons_append]

end WritingLemmas

open WritingLemmas

/-- What is written as a text is a spelling of it. -/
theorem quoted_writeText (s : String) : Quoted s (writeText s).toList :=
  ⟨_, spelled_flatMap_escape s.toList, toList_writeText s⟩

/-- No spelling of a text is shorter than the one that is written. -/
theorem length_writeText_le {s : String} (h : Quoted s v) :
    (writeText s).toList.length ≤ v.length := by
  obtain ⟨cs, spelled, rfl⟩ := h
  have inner := length_flatMap_escape_le spelled
  rw [toList_writeText]
  simp only [List.length_cons, List.length_append]
  omega

/-! ## Numbers -/

namespace WritingLemmas

theorem whole_decimal (n : Nat) : Whole (decimal n).toList where
  ne_nil := toList_decimal_ne_nil n
  isDigit _ := isDigit_of_mem_decimal
  leading ds zero := by
    -- A zero in front adds nothing, so the other digits, if there are any, would be enough for the
    -- number, and a decimal text has no more digits than are enough.
    by_contra others
    have digits : OnlyDigits ds := fun c hc =>
      isDigit_of_mem_decimal (n := n) (by rw [zero]; exact List.mem_cons_of_mem _ hc)
    have value : ofDigits ds = n := by
      rw [← ofDigits_decimal n, zero]
      rfl
    have small : n < 10 ^ ds.length := value ▸ MagnitudeLemmas.ofDigits_lt digits
    have length : (decimal n).toList.length ≤ ds.length := by
      rw [toList_decimal, Nat.length_toDigits_le_iff (by decide) (List.length_pos_iff.mpr others)]
      exact small
    rw [zero, List.length_cons] at length
    exact absurd length (Nat.not_succ_le_self _)

end WritingLemmas

/-- A decimal text is the integer of a document. -/
theorem integerText_decimal (n : Nat) : IntegerText n (decimal n).toList := by
  have whole := IntegerText.unsigned (whole_decimal n)
  rwa [ofDigits_decimal] at whole

end Plant.Json
