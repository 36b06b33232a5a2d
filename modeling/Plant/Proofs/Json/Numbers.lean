import Plant.Proofs.Json.Grammar
import Plant.Proofs.Related

/-!
# Reading numbers

A number ends where no character follows that could belong to it, so what a reader makes of a number
does not depend on the rest of the document. Every number can be passed over.

Results:
1. `readNumber_append`: a number is read the same way before the rest of a document.
2. `skipNumber_append`: a number is passed over.
-/
namespace Plant.Json

open Plant.Number

variable {cs ds rest v : List Char} {c : Char}

/-! ## The rest of a document -/

/-- The rest of a document after a value. -/
def Ends (rest : List Char) : Prop :=
  ∀ c ∈ rest.head?, c ∈ [' ', '\n', '\t', '\r', ',', ']', '\x7d']

theorem ends_nil : Ends [] := fun _ h => nomatch h

theorem ends_cons (h : c ∈ [' ', '\n', '\t', '\r', ',', ']', '\x7d']) : Ends (c :: rest) := by
  intro d hd
  cases hd
  exact h

theorem Spaces.ends {s : List Char} (hs : Spaces s) (h : Ends rest) : Ends (s ++ rest) := by
  cases s with
  | nil => exact h
  | cons c s => exact ends_cons (List.mem_append_left [',', ']', '\x7d'] (hs c List.mem_cons_self))

/-- The rest of a document is nothing, or starts with none of the characters of numbers. -/
theorem Ends.cases (h : Ends rest) :
    rest = [] ∨ ∃ c cs, rest = c :: cs ∧ c.isDigit = false ∧ c ≠ '.' ∧ c ≠ 'e' ∧ c ≠ 'E' ∧
      c ≠ '+' ∧ c ≠ '-' := by
  cases rest with
  | nil => exact .inl rfl
  | cons c cs =>
    have foreign : ∀ c ∈ [' ', '\n', '\t', '\r', ',', ']', '\x7d'], c.isDigit = false ∧ c ≠ '.' ∧
        c ≠ 'e' ∧ c ≠ 'E' ∧ c ≠ '+' ∧ c ≠ '-' := by simp
    exact .inr ⟨c, cs, rfl, foreign c (h c rfl)⟩

namespace NumberLemmas

theorem startsWithDigit_append (h : Ends rest) (cs : List Char) :
    startsWithDigit (cs ++ rest) = startsWithDigit cs := by
  cases cs with
  | cons c cs => rfl
  | nil =>
    obtain rfl | ⟨c, cs, rfl, digit, -⟩ := h.cases
    · rfl
    · exact digit

theorem takeWhile_isDigit_append (h : Ends rest) (cs : List Char) :
    (cs ++ rest).takeWhile Char.isDigit = cs.takeWhile Char.isDigit := by
  induction cs with
  | nil =>
    obtain rfl | ⟨c, cs, rfl, digit, -⟩ := h.cases
    · rfl
    · exact List.takeWhile_cons_of_neg (by rw [digit]; exact Bool.false_ne_true)
  | cons c cs ih => rw [List.cons_append, List.takeWhile_cons, List.takeWhile_cons, ih]

theorem dropWhile_isDigit_append (h : Ends rest) (cs : List Char) :
    (cs ++ rest).dropWhile Char.isDigit = cs.dropWhile Char.isDigit ++ rest := by
  have parts : (cs ++ rest).takeWhile Char.isDigit ++ (cs ++ rest).dropWhile Char.isDigit =
      cs.takeWhile Char.isDigit ++ (cs.dropWhile Char.isDigit ++ rest) := by
    rw [List.takeWhile_append_dropWhile, ← List.append_assoc, List.takeWhile_append_dropWhile]
  rw [takeWhile_isDigit_append h] at parts
  exact List.append_cancel_left parts

theorem takeSignificand_append (h : Ends rest) (cs : List Char) (significand taken : Nat) :
    takeSignificand significand taken (cs ++ rest) =
      ((takeSignificand significand taken cs).1, (takeSignificand significand taken cs).2.1,
        (takeSignificand significand taken cs).2.2 ++ rest) := by
  induction cs generalizing significand taken with
  | nil =>
    obtain rfl | ⟨c, cs, rfl, digit, -⟩ := h.cases
    · rfl
    · simp [takeSignificand, digit]
  | cons c cs ih =>
    rw [List.cons_append, takeSignificand, takeSignificand]
    split
    · exact ih ..
    · rfl

theorem takeExponentSign_append (h : Ends rest) (cs : List Char) :
    takeExponentSign (cs ++ rest) = ((takeExponentSign cs).1, (takeExponentSign cs).2 ++ rest) := by
  cases cs with
  | nil =>
    obtain rfl | ⟨c, cs, rfl, -, -, -, -, plus, minus⟩ := h.cases
    · rfl
    · simp [takeExponentSign, plus, minus]
  | cons c cs =>
    unfold takeExponentSign
    simp only [List.cons_append]
    split <;> simp_all

theorem readExponent_append (h : Ends rest) {e : Int} {left : List Char}
    (he : readExponent cs = .ok (e, left)) : readExponent (cs ++ rest) = .ok (e, left ++ rest) := by
  unfold readExponent at *
  rw [takeExponentSign_append h]
  generalize takeExponentSign cs = sign at he ⊢
  obtain ⟨negative, cs⟩ := sign
  cases cs with
  | nil => cases he
  | cons c cs =>
    simp only [takeWhile_isDigit_append h, dropWhile_isDigit_append h]
    simp only [List.cons_append] at he ⊢
    split
    case isFalse digit =>
      rw [if_neg digit] at he
      cases he
    case isTrue digit =>
      rw [if_pos digit] at he
      cases he
      rfl

variable {negative : Bool} {significand dropped : Nat} {exponent : Int} {n : Numeric}
  {left : List Char}

theorem readScaled_append (h : Ends rest)
    (hn : readScaled negative significand exponent cs = .ok (n, left)) :
    readScaled negative significand exponent (cs ++ rest) = .ok (n, left ++ rest) := by
  cases cs with
  | nil =>
    obtain ⟨x, hx, hn⟩ := bind_eq_ok hn
    cases hn
    obtain rfl | ⟨c, cs, rfl, -, -, e, E, -⟩ := h.cases
    · simp [readScaled, hx, bind, Except.bind]
    · simp [readScaled, hx, e, E, bind, Except.bind]
  | cons c cs =>
    unfold readScaled at *
    simp only [List.cons_append] at hn ⊢
    split
    case isTrue mark =>
      rw [if_pos mark] at hn
      obtain ⟨⟨e, exp⟩, he, hn⟩ := bind_eq_ok hn
      obtain ⟨x, hx, hn⟩ := bind_eq_ok hn
      cases hn
      simp [readExponent_append h he, hx, bind, Except.bind]
    case isFalse mark =>
      rw [if_neg mark] at hn
      obtain ⟨x, hx, hn⟩ := bind_eq_ok hn
      cases hn
      simp [hx, bind, Except.bind]

theorem readFraction_append (h : Ends rest)
    (hn : readFraction negative significand exponent cs = .ok (n, left)) :
    readFraction negative significand exponent (cs ++ rest) = .ok (n, left ++ rest) := by
  cases cs with
  | nil => cases hn
  | cons c cs =>
    simp only [readFraction, List.cons_append] at hn ⊢
    split
    case isTrue digit =>
      rw [if_pos digit] at hn
      rw [← List.cons_append, takeSignificand_append h]
      simp only [dropWhile_isDigit_append h]
      exact readScaled_append h hn
    case isFalse digit =>
      rw [if_neg digit] at hn
      cases hn

/-- What begins neither a fraction nor an exponent. -/
theorem readTail_of_head (hc : ∀ c ∈ cs.head?, c ≠ '.' ∧ c ≠ 'e' ∧ c ≠ 'E') :
    readTail negative significand dropped cs =
      if dropped = 0 then .ok (makeInteger negative significand, cs)
      else readScaled negative significand dropped cs := by
  unfold readTail
  split
  case h_1 => exact absurd rfl (hc '.' rfl).1
  case h_2 => exact absurd rfl (hc 'e' rfl).2.1
  case h_3 => exact absurd rfl (hc 'E' rfl).2.2
  case h_4 => rfl

theorem readTail_append (h : Ends rest)
    (hn : readTail negative significand dropped cs = .ok (n, left)) :
    readTail negative significand dropped (cs ++ rest) = .ok (n, left ++ rest) := by
  by_cases hc : ∀ c ∈ cs.head?, c ≠ '.' ∧ c ≠ 'e' ∧ c ≠ 'E'
  case pos =>
    have hc' : ∀ c ∈ (cs ++ rest).head?, c ≠ '.' ∧ c ≠ 'e' ∧ c ≠ 'E' := by
      cases cs with
      | cons c cs => exact hc
      | nil =>
        obtain rfl | ⟨c, cs, rfl, -, point, e, E, -⟩ := h.cases
        · exact hc
        · intro d hd
          cases hd
          exact ⟨point, e, E⟩
    rw [readTail_of_head hc] at hn
    rw [readTail_of_head hc']
    split
    case isTrue none =>
      rw [if_pos none] at hn
      cases hn
      rfl
    case isFalse some =>
      rw [if_neg some] at hn
      exact readScaled_append h hn
  case neg =>
    cases cs with
    | nil => exact absurd (fun _ hc => nomatch hc) hc
    | cons c cs =>
      by_cases point : c = '.'
      · subst point
        exact readFraction_append h hn
      by_cases e : c = 'e'
      · subst e
        change readScaled negative significand dropped ('e' :: cs) = _ at hn
        exact readScaled_append h hn
      by_cases E : c = 'E'
      · subst E
        change readScaled negative significand dropped ('E' :: cs) = _ at hn
        exact readScaled_append h hn
      exact absurd (fun d hd => by cases hd; exact ⟨point, e, E⟩) hc

theorem readUnsigned_append (h : Ends rest) (hn : readUnsigned negative cs = .ok (n, left)) :
    readUnsigned negative (cs ++ rest) = .ok (n, left ++ rest) := by
  cases cs with
  | nil => cases hn
  | cons c cs =>
    simp only [readUnsigned, List.cons_append, startsWithDigit_append h] at hn ⊢
    split at hn
    case isTrue => cases hn
    case isFalse digit =>
      rw [if_neg digit]
      split at hn
      case isTrue zero =>
        rw [if_pos zero]
        split at hn
        case isTrue => cases hn
        case isFalse single =>
          rw [if_neg single]
          exact readTail_append h hn
      case isFalse other =>
        rw [if_neg other, takeSignificand_append h]
        simp only [takeWhile_isDigit_append h, dropWhile_isDigit_append h]
        exact readTail_append h hn

end NumberLemmas

open NumberLemmas

theorem readNumber_of_ne_minus (hc : cs.head? ≠ some '-') :
    readNumber cs = readUnsigned false cs := by
  unfold readNumber
  split
  case h_1 => exact absurd rfl hc
  case h_2 => rfl

/-- A number is read the same way before the rest of a document. -/
theorem readNumber_append (h : Ends rest) {n : Numeric} {left : List Char}
    (hn : readNumber cs = .ok (n, left)) : readNumber (cs ++ rest) = .ok (n, left ++ rest) := by
  by_cases minus : cs.head? = some '-'
  · obtain ⟨cs, rfl⟩ := List.head?_eq_some_iff.mp minus
    exact readUnsigned_append h hn
  · rw [readNumber_of_ne_minus minus] at hn
    rw [readNumber_of_ne_minus, readUnsigned_append h hn]
    cases cs with
    | nil => cases hn
    | cons c cs => exact minus

/-! ## Passing over numbers -/

namespace NumberLemmas

/-- What does not start with a digit. -/
def NoDigit (cs : List Char) : Prop := ∀ c ∈ cs.head?, c.isDigit = false

theorem startsWithDigit_digits (hds : Digits ds) (cs : List Char) :
    startsWithDigit (ds ++ cs) = true := by
  cases ds with
  | nil => exact absurd rfl hds.ne_nil
  | cons d ds => exact hds.isDigit d List.mem_cons_self

theorem dropWhile_isDigit_of_noDigit (h : NoDigit cs) : cs.dropWhile Char.isDigit = cs := by
  cases cs with
  | nil => rfl
  | cons c cs => exact List.dropWhile_cons_of_neg (by rw [h c rfl]; exact Bool.false_ne_true)

theorem takeWhile_isDigit_of_noDigit (h : NoDigit cs) : cs.takeWhile Char.isDigit = [] := by
  cases cs with
  | nil => rfl
  | cons c cs => exact List.takeWhile_cons_of_neg (by rw [h c rfl]; exact Bool.false_ne_true)

theorem startsWithDigit_of_noDigit (h : NoDigit cs) : startsWithDigit cs = false := by
  cases cs with
  | nil => rfl
  | cons c cs => exact h c rfl

theorem skipDigits_append (hds : Digits ds) (h : NoDigit cs) : skipDigits (ds ++ cs) = .ok cs := by
  rw [skipDigits, if_pos (startsWithDigit_digits hds cs), List.dropWhile_append_of_pos hds.isDigit,
    dropWhile_isDigit_of_noDigit h]

theorem Ends.noDigit (h : Ends rest) : NoDigit rest := by
  obtain rfl | ⟨c, cs, rfl, digit, -⟩ := h.cases
  · exact fun _ h => nomatch h
  · intro d hd
    cases hd
    exact digit

theorem noDigit_exponent {k : Int} {e : List Char} (he : Exponent k e) (h : Ends rest) :
    NoDigit (e ++ rest) := by
  have mark : ∀ c ∈ ['e', 'E'], c.isDigit = false := by simp
  cases he with
  | none => exact Ends.noDigit h
  | unsigned hm | plus hm | minus hm =>
    intro d hd
    cases hd
    exact mark _ hm

theorem noDigit_fraction {k : Int} {f e : List Char} (hf : Fraction ds f) (he : Exponent k e)
    (h : Ends rest) : NoDigit (f ++ (e ++ rest)) := by
  cases hf with
  | none =>
    show NoDigit (e ++ rest)
    exact noDigit_exponent he h
  | digits =>
    intro d hd
    cases hd
    rfl

theorem takeExponentSign_digits (hds : Digits ds) (cs : List Char) :
    takeExponentSign (ds ++ cs) = (false, ds ++ cs) := by
  have start := startsWithDigit_digits hds cs
  unfold takeExponentSign
  split
  case h_1 eq | h_2 eq =>
    rw [eq] at start
    cases start
  case h_3 => rfl

theorem skipExponent_append {k : Int} {e : List Char} (he : Exponent k e) (h : Ends rest) :
    skipExponent (e ++ rest) = .ok rest := by
  have marked {mark : Char} (hm : mark ∈ ['e', 'E']) (cs : List Char) :
      skipExponent (mark :: cs) = skipDigits (takeExponentSign cs).2 := by
    rcases List.mem_pair.mp hm with rfl | rfl <;> rfl
  cases he with
  | none =>
    obtain rfl | ⟨c, cs, rfl, -, -, e, E, -⟩ := h.cases
    · rfl
    · simp [skipExponent, e, E]
  | @unsigned mark ds hm hds =>
    rw [List.cons_append, marked hm, takeExponentSign_digits hds]
    exact skipDigits_append hds (Ends.noDigit h)
  | @plus mark ds hm hds | @minus mark ds hm hds =>
    rw [List.cons_append, List.cons_append, marked hm]
    exact skipDigits_append hds (Ends.noDigit h)

theorem skipTail_append {k : Int} {f e : List Char} (hf : Fraction ds f) (he : Exponent k e)
    (h : Ends rest) : skipTail (f ++ (e ++ rest)) = .ok rest := by
  cases hf with
  | none =>
    have point : (e ++ rest).head? ≠ some '.' := by
      cases he with
      | none =>
        obtain rfl | ⟨c, cs, rfl, -, point, -⟩ := h.cases
        · exact nofun
        · exact fun same => point (Option.some.inj same)
      | unsigned hm | plus hm | minus hm =>
        rintro same
        cases same
        revert hm
        decide
    show skipTail (e ++ rest) = _
    rw [← skipExponent_append he h]
    unfold skipTail
    split
    case h_1 eq =>
      rw [eq] at point
      exact absurd rfl point
    case h_2 => rfl
  | digits hds =>
    show (skipDigits (ds ++ (e ++ rest)) >>= skipExponent) = _
    rw [skipDigits_append hds (noDigit_exponent he h)]
    exact skipExponent_append he h

theorem skipUnsigned_append {k : Int} {w f e : List Char} (hw : Whole w) (hf : Fraction ds f)
    (he : Exponent k e) (h : Ends rest) : skipUnsigned (w ++ (f ++ (e ++ rest))) = .ok rest := by
  have tail := noDigit_fraction hf he h
  unfold skipUnsigned
  split
  case h_1 cs eq =>
    cases w with
    | nil => exact absurd rfl hw.ne_nil
    | cons d ds =>
      obtain ⟨rfl, rfl⟩ := List.cons.inj eq
      cases hw.leading ds rfl
      change (if startsWithDigit (f ++ (e ++ rest)) then _ else skipTail (f ++ (e ++ rest))) = _
      rw [startsWithDigit_of_noDigit tail]
      exact skipTail_append hf he h
  case h_2 =>
    rw [skipDigits_append hw.toDigits tail]
    exact skipTail_append hf he h

end NumberLemmas

/-- A number is passed over. -/
theorem skipNumber_append (hv : NumberText v) (h : Ends rest) :
    skipNumber (v ++ rest) = .ok rest := by
  cases hv with
  | @unsigned w _ f e _ hw hf he =>
    rw [List.append_assoc, List.append_assoc, ← skipUnsigned_append hw hf he h]
    unfold skipNumber
    split
    case h_1 cs eq =>
      have start := startsWithDigit_digits hw.toDigits (f ++ (e ++ rest))
      rw [eq] at start
      cases start
    case h_2 => rfl
  | negative hw hf he =>
    rw [List.cons_append, List.append_assoc, List.append_assoc]
    exact skipUnsigned_append hw hf he h

end Plant.Json
