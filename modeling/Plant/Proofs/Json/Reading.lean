import Plant.Proofs.Json.NumberValues
import Plant.Proofs.Json.Passing

/-!
# Reading shapes

A shape reads a value if the value is written in one of the ways that the grammar allows. Here are
the shapes of single values; lists and records are put together from what their parts read.

Results:
1. `reads_text`, `reads_integer`, `reads_real`, `reads_flag`, `reads_variant`: single values are read.
2. `reads_nullable`: nothing is read from null, something from what its shape reads.
3. `Shape.Reads.readDocument`: a document is read if its value is.
-/
namespace Plant.Json

open Plant.Number

/-! ## Definitions -/

/-- The shape reads the value from all the texts of a kind, with no more than `depth` lists and
records nested in one another. -/
structure Shape.Reads {α : Type} (shape : Shape α) (depth : Nat) (a : α) (P : List Char → Prop) :
    Prop where
  opens : ∀ v, P v → Opens v
  read : ∀ bound room s v rest, Spaces s → P v → v.length ≤ bound → depth ≤ room → Ends rest →
    shape.read bound room (s ++ (v ++ rest)) = .ok (a, rest)

variable {α : Type} {v i s rest : List Char}

theorem Shape.Reads.mono {shape : Shape α} {depth depth' : Nat} {a : α} {P : List Char → Prop}
    (h : shape.Reads depth a P) (le : depth ≤ depth') : shape.Reads depth' a P where
  opens := h.opens
  read bound room s v rest hs hv length hroom hrest :=
    h.read bound room s v rest hs hv length (Nat.le_trans le hroom) hrest

namespace ReadingLemmas

theorem int32?_toInt (n : Int32) : Shape.int32? n.toInt = some n := by
  rw [Shape.int32?, if_pos ⟨Int32.minValue_le_toInt n, Int32.toInt_le n⟩, Int32.ofInt_toInt]

theorem range_toInt (n : Int32) :
    Int64.minValue.toInt ≤ n.toInt ∧ n.toInt < UInt64.size := by
  have lower := n.le_toInt
  have upper := n.toInt_lt
  show -2 ^ 63 ≤ n.toInt ∧ n.toInt < 2 ^ 64
  omega

theorem readVariantName_quoted {cases : List (String × α)} {name : String} {a : α}
    (known : cases.lookup name = some a) {cs : List Char} (hcs : Spelled name.toList cs)
    (rest : List Char) : readVariantName cases (cs ++ '"' :: rest) = .ok (a, rest) := by
  simp [readVariantName, readText_spelled hcs, String.ofList_toList, known, bind, Except.bind]

theorem numberText_of_integerText {i : Int} (hv : IntegerText i v) : NumberText v := by
  cases hv with
  | unsigned hw =>
    have number := NumberText.unsigned hw .none .none
    rwa [List.append_nil, List.append_nil] at number
  | negative hw _ =>
    have number := NumberText.negative hw .none .none
    rwa [List.append_nil, List.append_nil] at number

theorem readNumberAs_append {n : Numeric} (hv : NumberText v)
    (hn : readNumber (v ++ rest) = .ok (n, rest)) (hs : Spaces s) (name : String) :
    readNumberAs name (s ++ (v ++ rest)) = .ok (n, rest) := by
  obtain ⟨c, cs, rfl, hc⟩ := PassingLemmas.numberText_cases hv
  obtain ⟨_, _, same, space, -⟩ := PassingLemmas.opens_of_numberText hv
  cases same
  rw [readNumberAs, List.cons_append, skipSpace_append hs (starts_cons space _)]
  exact (if_pos hc).trans hn

end ReadingLemmas

open ReadingLemmas PassingLemmas

/-! ## Single values -/

theorem reads_text (t : String) {depth : Nat} : Shape.text.Reads depth t (Quoted t) where
  opens _ hv := opens_of_between hv
  read bound room s v rest hs hv _ _ _ := by
    obtain ⟨cs, hcs, rfl⟩ := hv
    rw [Shape.read, readTextAs, List.cons_append, skipSpace_append hs (starts_cons rfl _),
      List.append_assoc]
    show Except.map _ (readText none (cs ++ '"' :: rest)) = _
    rw [readText_spelled hcs, Except.map]
    simp only [String.ofList_toList]

theorem reads_flag (b : Bool) {depth : Nat} : Shape.flag.Reads depth b (Flag b) where
  opens _ hv := by cases hv <;> exact ⟨_, _, rfl, rfl, by decide⟩
  read bound room s v rest hs hv _ _ _ := by
    cases hv <;>
      (rw [Shape.read, readFlag, List.cons_append, skipSpace_append hs (starts_cons rfl _)]; rfl)

/-- An integer of 64 bits is read as what the type of numbers makes of it. -/
theorem reads_integer {of? : Int → Option α} {i : Int} {a : α} (known : of? i = some a)
    (range : Int64.minValue.toInt ≤ i ∧ i < UInt64.size) (name : String) {depth : Nat} :
    (Shape.integer name of?).Reads depth a (IntegerText i) where
  opens _ hv := opens_of_numberText (numberText_of_integerText hv)
  read bound room s v rest hs hv _ _ hrest := by
    have number := readNumber_integerText hv range hrest
    rw [Shape.read, readInteger, readNumberAs_append (numberText_of_integerText hv) number hs]
    simp [bind, Except.bind, known]

theorem reads_int32 (n : Int32) {depth : Nat} :
    Shape.int32.Reads depth n (IntegerText n.toInt) :=
  reads_integer (int32?_toInt n) (range_toInt n) "i32"

theorem reads_real (x : Binary64) {depth : Nat} : Shape.real.Reads depth x (RealText x) where
  opens _ hv := opens_of_numberText (realText_iff.mp hv).1
  read bound room s v rest hs hv _ _ hrest := by
    obtain ⟨number, n, hn, rfl⟩ := realText_iff.mp hv
    rw [Shape.read, readNumberAs_append number (readNumber_append hrest hn) hs]
    rfl

theorem reads_variant {cases : List (String × α)} {name : String} {a : α}
    (known : cases.lookup name = some a) : (Shape.variant cases).Reads 1 a (Named name) where
  opens _ hv := by
    cases hv with
    | text h => exact opens_of_between h
    | record _ h => exact opens_of_enclosed h rfl (by decide)
  read bound room s v rest hs hv _ depth _ := by
    cases hv with
    | text h =>
      obtain ⟨cs, hcs, rfl⟩ := h
      rw [Shape.read, readVariant, List.cons_append, skipSpace_append hs (starts_cons rfl _),
        List.append_assoc]
      exact readVariantName_quoted known hcs rest
    | record hm h =>
      obtain ⟨t, k, t', i, ht, ⟨cs, hcs, rfl⟩, ht', ⟨p, p', hp, hp', rfl⟩, rfl⟩ := hm
      cases h
      have key (rest : List Char) : readVariantKey cases (t ++ '"' :: (cs ++ '"' :: rest)) =
          .ok (a, rest) := by
        rw [readVariantKey, skipSpace_append ht (starts_cons rfl _)]
        exact (if_pos rfl).trans (readVariantName_quoted known hcs rest)
      have null (rest : List Char) :
          readNull (p ++ 'n' :: 'u' :: 'l' :: 'l' :: rest) = .ok rest := by
        rw [readNull, skipSpace_append hp (starts_cons rfl _)]
        exact readWord_append ['u', 'l', 'l'] rest
      have closing := readClosing_append hp' (c := '\x7d') rfl rest
      rw [Shape.read, readVariant, List.cons_append, skipSpace_append hs (starts_cons rfl _)]
      simp [Nat.ne_of_gt depth, key, readColon_append ht', null, closing, bind, Except.bind]

/-! ## Values of open content -/

theorem reads_content_text {of? : Content → Option α} {t : String} {a : α}
    (known : of? (.text t) = some a) (name : String) {depth : Nat} :
    (Shape.content name of?).Reads depth a (Quoted t) where
  opens _ hv := opens_of_between hv
  read bound room s v rest hs hv _ _ _ := by
    obtain ⟨cs, hcs, rfl⟩ := hv
    have content : readContent bound room (s ++ ('"' :: (cs ++ ['"']) ++ rest)) =
        .ok (.text t, rest) := by
      rw [readContent, List.cons_append, skipSpace_append hs (starts_cons rfl _),
        List.append_assoc]
      show Except.map _ (readText none (cs ++ '"' :: rest)) = _
      rw [readText_spelled hcs, Except.map]
      simp only [String.ofList_toList]
    rw [Shape.read, content]
    simp [bind, Except.bind, known]

theorem reads_content_int32 {of? : Content → Option α} {n : Int32} {a : α}
    (known : of? (.integer n.toInt) = some a) (name : String) {depth : Nat} :
    (Shape.content name of?).Reads depth a (IntegerText n.toInt) where
  opens _ hv := opens_of_numberText (numberText_of_integerText hv)
  read bound room s v rest hs hv _ _ hrest := by
    have number := readNumber_integerText hv (range_toInt n) hrest
    obtain ⟨c, cs, rfl, hc⟩ := numberText_cases (numberText_of_integerText hv)
    obtain ⟨_, _, same, space, -⟩ := opens_of_numberText (numberText_of_integerText hv)
    cases same
    have quote : c ≠ '"' := by
      rintro rfl
      revert hc
      decide
    have content :
        readContent bound room (s ++ (c :: cs ++ rest)) = .ok (.integer n.toInt, rest) := by
      rw [readContent, List.cons_append, skipSpace_append hs (starts_cons space _)]
      split
      case h_1 eq => cases eq
      case h_2 eq => exact absurd (List.cons.inj eq).1 quote
      case h_3 eq =>
        cases eq
        rw [if_pos hc, ← List.cons_append, number]
        rfl
    rw [Shape.read, content]
    simp [bind, Except.bind, known]

/-! ## Something or nothing -/

theorem reads_nullable {shape : Shape α} {depth : Nat} {P : α → List Char → Prop} {a? : Option α}
    (h : ∀ a, shape.Reads depth a (P a)) (other : ∀ a v, P a v → v.head? ≠ some 'n') :
    (Shape.nullable shape).Reads depth a? (Nullable P a?) where
  opens _ hv := by
    cases hv with
    | null => exact ⟨_, _, rfl, rfl, by decide⟩
    | some hv => exact (h _).opens _ hv
  read bound room s v rest hs hv length hroom hrest := by
    cases hv with
    | null =>
      rw [Shape.read, List.cons_append, skipSpace_append hs (starts_cons rfl _)]
      show Except.map _ (readWord ['u', 'l', 'l'] (['u', 'l', 'l'] ++ rest)) = _
      rw [readWord_append]
      rfl
    | some hv =>
      obtain ⟨c, cs, rfl, hc, -⟩ := (h _).opens _ hv
      have value := (h _).read bound room [] _ rest spaces_nil hv length hroom hrest
      rw [Shape.read, List.cons_append, skipSpace_append hs (starts_cons hc _)]
      split
      case h_1 eq => exact absurd (congrArg some (List.cons.inj eq).1) (other _ _ hv)
      case h_2 =>
        rw [List.nil_append, List.cons_append] at value
        rw [value]
        rfl

/-! ## Documents -/

/-- The value of a document is read, with white space around it. -/
theorem Shape.Reads.readDocument {shape : Shape α} {depth : Nat} {a : α} {P : List Char → Prop}
    (h : shape.Reads depth a P) (shallow : depth ≤ maxNesting) {text : String} (hv : P v)
    (pads : Pads v text.toList) : shape.readDocument text = .ok a := by
  obtain ⟨s, s', hs, hs', split⟩ := pads
  have length : v.length ≤ text.toList.length := by
    simp only [split, List.length_append]
    omega
  have ends := hs'.ends ends_nil
  have blank := skipSpace_spaces hs' []
  rw [List.append_nil] at ends blank
  have value := h.read text.toList.length maxNesting s v s' hs hv length shallow ends
  rw [← List.append_assoc, ← split] at value
  have blank : skipSpace s' = [] := blank
  simp [Shape.readDocument, value, blank, bind, Except.bind]

end Plant.Json
