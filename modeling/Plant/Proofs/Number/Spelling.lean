import Mathlib.Algebra.Field.Rat
import Plant.Number.Numeral

/-!
# The spelling of numbers

Which texts spell a number, and which number that is, said without reading them: a sign or none,
digits with or without a point among, before or after them, and a power of ten or none. The numerals
that are read are these texts, and their values are these numbers.

Results:
1. `Numeral.spells_of_read?`: a text that is read as a numeral spells the numeral's value.
2. `Spells.exists_read?`: a text that spells a number is read as a numeral of that value.
3. `Spells.unique`: a text spells one number at most.
-/
namespace Plant.Number

/-! ## Grammar -/

/-- The text has no characters but decimal digits. -/
def OnlyDigits (cs : List Char) : Prop := ∀ c ∈ cs, c.isDigit = true

/-- A sign or none, and what it multiplies by. -/
inductive SignText : List Char → Int → Prop
  | none : SignText [] 1
  | plus : SignText ['+'] 1
  | minus : SignText ['-'] (-1)

/-- Digits with or without a point: the number that they make without it, and how many of them are
behind it. A point is not alone. -/
inductive Mantissa : List Char → Nat → Nat → Prop
  | whole {ds : List Char} : ds ≠ [] → OnlyDigits ds → Mantissa ds (ofDigits ds) 0
  | point {ds fs : List Char} : ds ≠ [] → OnlyDigits ds → OnlyDigits fs →
      Mantissa (ds ++ '.' :: fs) (ofDigits (ds ++ fs)) fs.length
  | fraction {fs : List Char} : fs ≠ [] → OnlyDigits fs →
      Mantissa ('.' :: fs) (ofDigits fs) fs.length

/-- A power of ten or none, and its exponent. -/
inductive PowerText : List Char → Int → Prop
  | none : PowerText [] 0
  | some {mark : Char} {sign ds : List Char} {f : Int} : mark ∈ ['e', 'E'] → SignText sign f →
      ds ≠ [] → OnlyDigits ds → PowerText (mark :: (sign ++ ds)) (f * ofDigits ds)

/-- The text spells the number. -/
inductive Spells : List Char → ℚ → Prop
  | intro {s m p : List Char} {f e : Int} {n k : Nat} : SignText s f → Mantissa m n k →
      PowerText p e → Spells (s ++ (m ++ p)) (f * (n * 10 ^ (e - k)))

/-! ## Values of numerals -/

/-- What a sign multiplies by. -/
def factor (sign : Option Char) : Int := if sign = some '-' then -1 else 1

namespace Numeral

/-- The value of the numeral without its sign. -/
def magnitude (n : Numeral) : ℚ := ofDigits n.digits * 10 ^ n.power

/-- The value of the numeral. -/
def value (n : Numeral) : ℚ := factor n.sign * n.magnitude

/-- The characters of a point and the digits behind it. -/
def fractionText (fraction : Option (List Char)) : List Char := fraction.elim [] ('.' :: ·)

end Numeral

namespace SpellingLemmas

open Numeral

variable {cs ds : List Char}

/-! ## What is read is spelled so -/

/-- A numeral is read in stages, each of which takes its part off the front. -/
theorem read?_eq_some_iff {n : Numeral} : read? cs = some n ↔
    ∃ unsigned behind rest, takeSign cs = (n.sign, unsigned) ∧
      takeDigits unsigned = (n.whole, behind) ∧ takeFraction behind = (n.fraction, rest) ∧
      ¬ (n.whole = [] ∧ n.fraction.getD [] = []) ∧ exponent? rest = some n.exponent := by
  constructor
  · intro h
    obtain ⟨some, h⟩ := Option.ite_none_left_eq_some.mp h
    obtain ⟨e, he, rfl⟩ := Option.map_eq_some_iff.mp h
    exact ⟨_, _, _, rfl, rfl, rfl, some, he⟩
  · rintro ⟨unsigned, behind, rest, hsign, hwhole, hfraction, some, he⟩
    simp only [read?, hsign, hwhole, hfraction, he, if_neg some, Option.map_some]

theorem signText_of_takeSign {sign : Option Char} {rest : List Char}
    (h : takeSign cs = (sign, rest)) :
    cs = sign.toList ++ rest ∧ SignText sign.toList (factor sign) := by
  unfold takeSign at h
  split at h
  all_goals
    cases h
    refine ⟨rfl, ?_⟩
  · exact .plus
  · exact .minus
  · exact .none

theorem onlyDigits_of_takeDigits {digits rest : List Char} (h : takeDigits cs = (digits, rest)) :
    cs = digits ++ rest ∧ OnlyDigits digits := by
  cases h
  exact ⟨List.takeWhile_append_dropWhile.symm, List.all_eq_true.mp List.all_takeWhile⟩

theorem onlyDigits_of_takeFraction {fraction : Option (List Char)} {rest : List Char}
    (h : takeFraction cs = (fraction, rest)) :
    cs = fractionText fraction ++ rest ∧ OnlyDigits (fraction.getD []) := by
  unfold takeFraction at h
  split at h
  case h_1 cs =>
    obtain ⟨whole, digits⟩ := onlyDigits_of_takeDigits (Eq.refl (takeDigits cs))
    cases h
    exact ⟨congrArg ('.' :: ·) whole, digits⟩
  case h_2 =>
    cases h
    exact ⟨rfl, List.forall_mem_nil _⟩

theorem exponentValue_some (e : Exponent) :
    exponentValue (some e) = factor e.sign * ofDigits e.digits := by
  show (if _ then _ else _) = _
  unfold factor
  split <;> simp

theorem powerText_of_exponent? {e : Option Exponent} (h : exponent? cs = some e) :
    PowerText cs (exponentValue e) := by
  unfold exponent? at h
  split at h
  case h_1 =>
    cases h
    exact .none
  case h_2 c cs =>
    generalize hsign : takeSign cs = taken at h
    obtain ⟨sign, rest⟩ := taken
    obtain ⟨⟨mark, some, digits⟩, h⟩ := Option.ite_none_right_eq_some.mp h
    cases h
    obtain ⟨rfl, sign⟩ := signText_of_takeSign hsign
    rw [exponentValue_some]
    exact .some (by simpa using mark) sign some (List.all_eq_true.mp digits)

/-- The digits of a mantissa before its point and behind it. -/
theorem mantissa_iff {m : List Char} {n k : Nat} : Mantissa m n k ↔
    ∃ whole fraction, m = whole ++ fractionText fraction ∧
      n = ofDigits (whole ++ fraction.getD []) ∧ k = (fraction.getD []).length ∧
      OnlyDigits whole ∧ OnlyDigits (fraction.getD []) ∧
      ¬ (whole = [] ∧ fraction.getD [] = []) := by
  constructor
  · rintro (⟨some, digits⟩ | ⟨some, digits, behind⟩ | ⟨some, behind⟩)
    · exact ⟨_, none, by simp [fractionText], by simp, rfl, digits, List.forall_mem_nil _,
        fun h => some h.1⟩
    · exact ⟨_, .some _, rfl, rfl, rfl, digits, behind, fun h => some h.1⟩
    · exact ⟨[], .some _, rfl, rfl, rfl, List.forall_mem_nil _, behind, fun h => some h.2⟩
  · rintro ⟨whole, fraction, rfl, rfl, rfl, digits, behind, some⟩
    cases fraction with
    | none => simpa [fractionText] using Mantissa.whole (fun h => some ⟨h, rfl⟩) digits
    | some fs =>
      by_cases h : whole = []
      · subst h
        exact .fraction (fun h => some ⟨rfl, h⟩) behind
      · exact .point h digits behind

/-! ## What is spelled is read so -/

theorem takeDigits_of_onlyDigits (hds : OnlyDigits ds) (hcs : ∀ c ∈ cs.head?, c.isDigit = false) :
    takeDigits (ds ++ cs) = (ds, cs) := by
  have stop : cs.takeWhile Char.isDigit = [] ∧ cs.dropWhile Char.isDigit = cs := by
    cases cs with
    | nil => exact ⟨rfl, rfl⟩
    | cons c cs =>
      have hc : ¬ c.isDigit = true := Bool.eq_false_iff.mp (hcs c rfl)
      exact ⟨List.takeWhile_cons_of_neg hc, List.dropWhile_cons_of_neg hc⟩
  rw [takeDigits, List.takeWhile_append_of_pos hds, List.dropWhile_append_of_pos hds, stop.1,
    stop.2, List.append_nil]

/-- What comes behind a sign is not one. -/
theorem takeSign_of_signText {s : List Char} {f : Int} (hs : SignText s f)
    (hcs : ∀ c ∈ cs.head?, c ≠ '+' ∧ c ≠ '-') :
    ∃ sign, takeSign (s ++ cs) = (sign, cs) ∧ factor sign = f := by
  cases hs with
  | plus => exact ⟨some '+', rfl, rfl⟩
  | minus => exact ⟨some '-', rfl, rfl⟩
  | none =>
    refine ⟨none, ?_, rfl⟩
    rw [List.nil_append]
    unfold takeSign
    split
    · exact absurd rfl (hcs '+' rfl).1
    · exact absurd rfl (hcs '-' rfl).2
    · rfl

theorem not_sign_of_isDigit {c : Char} (h : c.isDigit = true) : c ≠ '+' ∧ c ≠ '-' := by
  constructor <;> (rintro rfl; cases h)

theorem takeFraction_of_onlyDigits {fraction : Option (List Char)}
    (hf : OnlyDigits (fraction.getD []))
    (hcs : ∀ c ∈ cs.head?, c.isDigit = false ∧ c ≠ '.') :
    takeFraction (fractionText fraction ++ cs) = (fraction, cs) := by
  cases fraction with
  | some fs =>
    have digits : takeDigits (fs ++ cs) = (fs, cs) :=
      takeDigits_of_onlyDigits hf fun c hc => (hcs c hc).1
    show (some (takeDigits (fs ++ cs)).1, (takeDigits (fs ++ cs)).2) = _
    rw [digits]
  | none =>
    show takeFraction cs = _
    unfold takeFraction
    split
    · exact absurd rfl (hcs '.' rfl).2
    · rfl

/-- A power of ten begins with none of the characters that may come before it. -/
theorem head_of_powerText {p : List Char} {e : Int} (hp : PowerText p e) :
    ∀ c ∈ p.head?, c.isDigit = false ∧ c ≠ '.' := by
  have marks : ∀ c ∈ ['e', 'E'], c.isDigit = false ∧ c ≠ '.' := by simp
  cases hp with
  | none => exact fun _ h => nomatch h
  | some mark =>
    intro c hc
    cases hc
    exact marks _ mark

theorem exponent?_of_powerText {p : List Char} {e : Int} (hp : PowerText p e) :
    ∃ x, exponent? p = some x ∧ exponentValue x = e := by
  cases hp with
  | none => exact ⟨none, rfl, rfl⟩
  | @some mark s ds f hmark hs some digits =>
    have behind : ∀ c ∈ ds.head?, c ≠ '+' ∧ c ≠ '-' := fun c hc =>
      not_sign_of_isDigit (digits c (List.mem_of_mem_head? hc))
    obtain ⟨sign, hsign, rfl⟩ := takeSign_of_signText hs behind
    refine ⟨.some ⟨mark, sign, ds⟩, ?_, ?_⟩
    · simp only [exponent?, hsign]
      exact if_pos ⟨by simpa using hmark, some, List.all_eq_true.mpr digits⟩
    · exact exponentValue_some _

/-- A mantissa begins with a digit or a point. -/
theorem head_of_mantissa {m : List Char} {n k : Nat} (hm : Mantissa m n k) (cs : List Char) :
    ∀ c ∈ (m ++ cs).head?, c ≠ '+' ∧ c ≠ '-' := by
  have digit {ds : List Char} (some : ds ≠ []) (digits : OnlyDigits ds) (cs : List Char) :
      ∀ c ∈ (ds ++ cs).head?, c ≠ '+' ∧ c ≠ '-' := by
    intro c hc
    cases ds with
    | nil => exact absurd rfl some
    | cons d ds =>
      cases hc
      exact not_sign_of_isDigit (digits _ List.mem_cons_self)
  cases hm with
  | whole some digits => exact digit some digits cs
  | point some digits =>
    rw [List.append_assoc]
    exact digit some digits _
  | fraction =>
    intro c hc
    cases hc
    decide

end SpellingLemmas

open SpellingLemmas

/-! ## Numerals and spelled numbers -/

namespace Numeral

theorem onlyDigits_of_read? {cs : List Char} {n : Numeral} (h : read? cs = some n) :
    OnlyDigits n.digits := by
  obtain ⟨_, _, _, -, hwhole, hfraction, -⟩ := read?_eq_some_iff.mp h
  exact List.forall_mem_append.mpr
    ⟨(onlyDigits_of_takeDigits hwhole).2, (onlyDigits_of_takeFraction hfraction).2⟩

/-- What is read as a numeral spells its value. -/
theorem spells_of_read? {cs : List Char} {n : Numeral} (h : read? cs = some n) :
    Spells cs n.value := by
  obtain ⟨_, _, _, hsign, hwhole, hfraction, some, he⟩ := read?_eq_some_iff.mp h
  obtain ⟨rfl, sign⟩ := signText_of_takeSign hsign
  obtain ⟨rfl, digits⟩ := onlyDigits_of_takeDigits hwhole
  obtain ⟨rfl, behind⟩ := onlyDigits_of_takeFraction hfraction
  have mantissa := mantissa_iff.mpr ⟨_, _, rfl, rfl, rfl, digits, behind, some⟩
  have spells := Spells.intro sign mantissa (powerText_of_exponent? he)
  rwa [List.append_assoc] at spells

end Numeral

namespace Spells

variable {cs : List Char} {x y : ℚ}

/-- What spells a number is read as a numeral of that value. -/
theorem exists_read? (h : Spells cs x) :
    ∃ n, Numeral.read? cs = some n ∧ n.value = x := by
  obtain @⟨s, m, p, f, e, n, k, hs, hm, hp⟩ := h
  obtain ⟨sign, hsign, rfl⟩ := takeSign_of_signText hs (head_of_mantissa hm p)
  obtain ⟨whole, fraction, rfl, rfl, rfl, digits, behind, some⟩ := mantissa_iff.mp hm
  obtain ⟨power, hpower, rfl⟩ := exponent?_of_powerText hp
  have point : ∀ c ∈ (Numeral.fractionText fraction ++ p).head?, c.isDigit = false := by
    cases fraction with
    | none => exact fun c hc => (head_of_powerText hp c hc).1
    | some fs =>
      intro c hc
      cases hc
      rfl
  rw [List.append_assoc] at hsign
  refine ⟨⟨sign, whole, fraction, power⟩, read?_eq_some_iff.mpr ?_, rfl⟩
  rw [List.append_assoc]
  exact ⟨_, _, _, hsign, takeDigits_of_onlyDigits digits point,
    takeFraction_of_onlyDigits behind (head_of_powerText hp), some, hpower⟩

theorem unique (hx : Spells cs x) (hy : Spells cs y) : x = y := by
  obtain ⟨n, hn, rfl⟩ := hx.exists_read?
  obtain ⟨m, hm, rfl⟩ := hy.exists_read?
  cases hn.symm.trans hm
  rfl

end Spells

end Plant.Number
