import Plant.Proofs.Lua.Values
import Plant.Proofs.Number.Rounding

/-!
# Numbers in generated code

An active parameter is written as a number exactly if its text, but for blanks around it, spells a
number that rounds to a finite one. Any other text is taken for names of devices: words for infinity
and for no number, digits of other bases or with signs between them, several numbers. A number is
written as it was given. Numbers may be given with a plus sign, but Lua has no such sign, so with it
the value is no expression.

Results:
1. `numbers_exact`: the texts that are written as numbers.
2. `numericExpression_iff`: the numbers that are expressions of Lua.
3. `gain_not_expression`: a parameter with a number that is none.
-/
namespace Plant.Lua

open Number

variable {p : Parameter} {v : String} {names : List String}

/-! ## Numbers that are recognised -/

namespace NumberLemmas

open DeviceLemmas

theorem spellsFinite_iff {cs : List Char} {x : ℚ} (h : Spells cs x) :
    SpellsFinite cs ↔ |x| < 2 ^ 1024 - 2 ^ 970 := by
  constructor
  · rintro ⟨y, hy, small⟩
    rwa [h.unique hy]
  · exact fun small => ⟨x, h, small⟩

theorem natAbs_num_div_den (x : ℚ) : (x.num.natAbs : ℚ) / x.den = |x| := by
  have den : |(x.den : ℚ)| = x.den := abs_of_nonneg (Nat.cast_nonneg _)
  rw [Nat.cast_natAbs, Int.cast_abs, ← den, ← abs_div, Rat.num_div_den]

/-- The texts that spell a finite number are those whose number is rounded to one. -/
theorem spellsFinite_iff_nearest {cs : List Char} {x : ℚ} (h : Spells cs x) :
    SpellsFinite cs ↔ Binary64.nearest x.num.natAbs x.den < Binary64.infinity := by
  rw [spellsFinite_iff h, Binary64.nearest_lt_infinity_iff x.den_pos, natAbs_num_div_den]

/-- References to devices are longer than their names, and a table has braces besides. -/
theorem ne_trim_of_devices? {s : String} (h : devices? (Text.words s) = some v) :
    v ≠ Text.trim s := by
  rintro rfl
  have parts := words_of_devices? (visible_words s) h
  rw [Text.words_trim] at parts
  rcases cases_of_devices? h with ⟨name, one, -⟩ | ⟨several, -⟩
  · rw [one] at parts
    have same : name = device name := by simpa [entryWords] using parts
    have length := congrArg List.length (congrArg String.toList same)
    have field : "prg.control_modules.".toList.length = 20 := rfl
    rw [toList_device, List.length_append] at length
    omega
  · rw [if_neg (by omega)] at parts
    have length := congrArg List.length parts
    rw [List.length_cons, List.length_append, length_entryWords, List.length_singleton] at length
    omega

theorem not_spellsFinite_of_foreign {cs : List Char} {c : Char} (hc : c ∈ cs)
    (foreign : ¬ Numeric c) : ¬ SpellsFinite cs := by
  rintro ⟨x, hx, -⟩
  obtain ⟨n, hn, -⟩ := hx.exists_read?
  exact foreign (Numeral.numeric_of_read? hn c hc)

end NumberLemmas

open NumberLemmas

/-- An active parameter that is written has its text without the blanks around it for a value
exactly if this spells a number that is below the bound, which is to say that it is rounded to a
finite number. Otherwise the value refers to devices; so it does if there is any other character
than digits, signs, points and exponent marks in the text. -/
theorem numbers_exact (active : p.kind = .active) (written : p.Written) :
    ∃ v, Renders p v ∧
      (v = Text.trim p.value ↔
        ∃ x, Spells (Text.trim p.value).toList x ∧ |x| < 2 ^ 1024 - 2 ^ 970) ∧
      (v ≠ Text.trim p.value → devices? (Text.words p.value) = some v) ∧
      (∀ x, Spells (Text.trim p.value).toList x →
        (v = Text.trim p.value ↔ Binary64.nearest x.num.natAbs x.den < Binary64.infinity)) ∧
      ∀ c ∈ (Text.trim p.value).toList, ¬ Numeric c → devices? (Text.words p.value) = some v := by
  obtain ⟨v, hv, renders⟩ := exists_renders written
  have verbatim : v = Text.trim p.value ↔ SpellsFinite (Text.trim p.value).toList := by
    constructor
    · intro same
      by_contra other
      rw [value?_of_not_holdsNumber (.inr active) fun h => other h.finite] at hv
      exact ne_trim_of_devices? hv same
    · intro finite
      rw [value?_of_holdsNumber ⟨active, finite⟩] at hv
      exact (Option.some.inj hv).symm
  have devices (other : v ≠ Text.trim p.value) : devices? (Text.words p.value) = some v := by
    rwa [← value?_of_not_holdsNumber (.inr active) fun h => other (verbatim.mpr h.finite)]
  refine ⟨v, renders, verbatim, devices, fun x hx => ?_, fun c hc foreign => devices ?_⟩
  · exact verbatim.trans (spellsFinite_iff_nearest hx)
  · exact fun same => not_spellsFinite_of_foreign hc foreign (verbatim.mp same)

/-- A number just below the bound, with blanks around it. -/
def greatest : Parameter := .new .active "max" "Maximum" "\u2003-17.976931348623157E+307\n"

/-- A word for a number that is not finite. -/
def endless : Parameter := .new .active "max" "Maximum" "-Infinity"

theorem numbers_exact_greatest :
    (greatest.kind = .active ∧ greatest.Written ∧ Renders greatest "-17.976931348623157E+307") ∧
      endless.kind = .active ∧ endless.Written ∧
        Renders endless "prg.control_modules.-Infinity" := by
  have written : greatest.Written := ⟨by decide, rfl, '1', by decide, rfl⟩
  have written' : endless.Written := ⟨by decide, rfl, '-', by decide, rfl⟩
  have text : Text.trim greatest.value = "-17.976931348623157E+307" := by decide +kernel
  have literal : isFiniteNumeral (Text.trim greatest.value) = true := by decide +kernel
  have finite : SpellsFinite (Text.trim greatest.value).toList := (isFiniteNumeral_iff _).mp literal
  have reference : devices? (Text.words endless.value) = some "prg.control_modules.-Infinity" := by
    decide +kernel
  obtain ⟨v, renders, verbatim, -⟩ := numbers_exact (p := greatest) rfl written
  obtain ⟨u, renders', -, -, -, devices⟩ := numbers_exact (p := endless) rfl written'
  refine ⟨⟨rfl, written, ?_⟩, rfl, written', ?_⟩
  · rw [verbatim.mpr finite, text] at renders
    exact renders
  · have letter : 'I' ∈ (Text.trim endless.value).toList := by decide +kernel
    have foreign : ¬ Numeric 'I' := by unfold Numeric; decide
    have value : u = "prg.control_modules.-Infinity" :=
      Option.some.inj ((devices 'I' letter foreign).symm.trans reference)
    rw [value] at renders'
    exact renders'

example : ["5.", "+.5", "0e999", "1.7976931348623158e308"].all isNumber = true ∧
    [".", "+", "1e", "1e+", "1.7976931348623159e308", "1e400", "-INF", "nan", "0x10", "1_000",
      "1 2"].any isNumber = false := by decide +kernel

/-! ## Numbers as expressions -/

/-- The text is a decimal numeral of Lua: digits with or without a point among, before or after
them, and an exponent or none. -/
inductive DecimalNumeral : List Char → Prop
  | intro {m e : List Char} {n places : Nat} {power : Int} : Mantissa m n places →
      PowerText e power → DecimalNumeral (m ++ e)

/-- The text is an expression of Lua for a number: a numeral or the negative of one. -/
inductive NumericExpression : List Char → Prop
  | numeral {cs : List Char} : DecimalNumeral cs → NumericExpression cs
  | negative {cs : List Char} : DecimalNumeral cs → NumericExpression ('-' :: cs)

namespace NumberLemmas

open SpellingLemmas

theorem DecimalNumeral.head?_ne {cs : List Char} (h : DecimalNumeral cs) :
    cs.head? ≠ some '+' := by
  obtain ⟨mantissa, -⟩ := h
  exact fun plus => (head_of_mantissa mantissa _ '+' plus).1 rfl

theorem NumericExpression.head?_ne {cs : List Char} (h : NumericExpression cs) :
    cs.head? ≠ some '+' := by
  cases h with
  | numeral h => exact DecimalNumeral.head?_ne h
  | negative => simp

/-- A text that spells a number is an expression but for a plus sign. -/
theorem expression_of_spells {cs : List Char} {x : ℚ} (h : Spells cs x) :
    NumericExpression cs ∨ ∃ ds, cs = '+' :: ds ∧ DecimalNumeral ds := by
  obtain ⟨sign, mantissa, power⟩ := h
  have numeral := DecimalNumeral.intro mantissa power
  cases sign with
  | none => exact .inl (.numeral numeral)
  | plus => exact .inr ⟨_, rfl, numeral⟩
  | minus => exact .inl (.negative numeral)

end NumberLemmas

/-- What is written as a number, and not as a reference to devices, is an expression of Lua exactly
if no plus sign was given with it. Behind the plus sign there is a numeral. -/
theorem numericExpression_iff (active : p.kind = .active) (h : Renders p v)
    (number : devices? (Text.words p.value) ≠ some v) :
    (NumericExpression v.toList ↔ v.toList.head? ≠ some '+') ∧
      ∀ cs, v.toList = '+' :: cs → DecimalNumeral cs := by
  obtain ⟨-, hv⟩ := renders_iff.mp h
  have holds : p.HoldsNumber := by
    by_contra other
    rw [value?_of_not_holdsNumber (.inr active) other] at hv
    exact number hv
  obtain ⟨x, hx, -⟩ := holds.finite
  cases (value?_of_holdsNumber holds).symm.trans hv
  refine ⟨⟨NumericExpression.head?_ne, fun other => ?_⟩, fun cs plus => ?_⟩
  · rcases expression_of_spells hx with expression | ⟨ds, plus, -⟩
    · exact expression
    · exact absurd (congrArg List.head? plus) other
  · rcases expression_of_spells hx with expression | ⟨ds, plus', numeral⟩
    · exact absurd (congrArg List.head? plus) (NumericExpression.head?_ne expression)
    · rw [plus'] at plus
      cases plus
      exact numeral

/-- A number without a plus sign. -/
def loss : Parameter := .new .active "loss" "Loss" " -.5e3"

theorem numericExpression_iff_loss :
    loss.kind = .active ∧ Renders loss "-.5e3" ∧
      devices? (Text.words loss.value) ≠ some "-.5e3" ∧ NumericExpression "-.5e3".toList := by
  have renders : Renders loss "-.5e3" := renders_iff_assignment?.mpr (by decide +kernel)
  have number : devices? (Text.words loss.value) ≠ some "-.5e3" := by decide +kernel
  exact ⟨rfl, renders, number, (numericExpression_iff rfl renders number).1.mpr (by decide)⟩

/-- A number with a plus sign. -/
def gain : Parameter := .new .active "gain" "Gain" "+5"

theorem gain_not_expression :
    gain.kind = .active ∧ Renders gain "+5" ∧ devices? (Text.words gain.value) ≠ some "+5" ∧
      ¬ NumericExpression "+5".toList := by
  have renders : Renders gain "+5" := renders_iff_assignment?.mpr (by decide +kernel)
  have number : devices? (Text.words gain.value) ≠ some "+5" := by decide +kernel
  exact ⟨rfl, renders, number, fun h => NumericExpression.head?_ne h rfl⟩

end Plant.Lua
