import Plant.Proofs.Text.Blank

/-!
# The words of a text

What it means that words stand in a text, said without splitting it: nothing but blanks is around
them, there is a blank between any two, and there is none in a word. A text has its words in one way
only.

Results:
1. `separated_iff`: the words of a text are those that stand in it.
2. `words_append`: the words of two texts with blanks between them are those of the one and then
   those of the other.
3. `separated_intercalate`: words that are joined by blanks stand in the text.
4. `words_trim`: a trimmed text has the same words.
5. `words_eq_singleton_iff`: a text has one word exactly if nothing else is left when it is trimmed.
-/
namespace Plant.Text

/-- The words stand in the text in that order, with blanks between them and around them. -/
inductive Separated : List Char → List (List Char) → Prop
  | none {blanks : List Char} : (∀ c ∈ blanks, isBlank c = true) → Separated blanks []
  | word {blanks w rest : List Char} {ws : List (List Char)} : (∀ c ∈ blanks, isBlank c = true) →
      w ≠ [] → (∀ c ∈ w, isBlank c = false) → (∀ c ∈ rest.head?, isBlank c = true) →
      Separated rest ws → Separated (blanks ++ w ++ rest) (w :: ws)

variable {cs v u b w : List Char} {ws vs us : List (List Char)}

/-! ## Blanks and words in front -/

namespace Separated

theorem front (hne : w ≠ []) (hw : ∀ c ∈ w, isBlank c = false)
    (hrest : ∀ c ∈ cs.head?, isBlank c = true) (h : Separated cs ws) :
    Separated (w ++ cs) (w :: ws) :=
  word (List.forall_mem_nil _) hne hw hrest h

theorem alone (hne : w ≠ []) (hw : ∀ c ∈ w, isBlank c = false) : Separated w [w] := by
  have nothing : Separated [] [] := .none (List.forall_mem_nil _)
  simpa using front hne hw (by simp) nothing

theorem blanks_append (hb : ∀ c ∈ b, isBlank c = true) (h : Separated cs ws) :
    Separated (b ++ cs) ws := by
  cases h with
  | none hcs => exact .none (List.forall_mem_append.mpr ⟨hb, hcs⟩)
  | word hblanks hne hw hrest h =>
    rw [← List.append_assoc, ← List.append_assoc]
    exact .word (List.forall_mem_append.mpr ⟨hb, hblanks⟩) hne hw hrest h

/-- A character in front of a text that starts with a word becomes part of that word. -/
theorem cons_extend {c d : Char} (hc : isBlank c = false) (hd : isBlank d = false)
    (h : Separated (d :: cs) ws) : Separated (c :: d :: cs) (extendFirst c ws) := by
  generalize hds : d :: cs = ds at h ⊢
  cases h with
  | none hblank =>
    rw [← hds, List.forall_mem_cons, hd] at hblank
    exact absurd hblank.1 Bool.false_ne_true
  | @word blanks w rest ws hblanks hne hw hrest h =>
    cases blanks with
    | nil =>
      exact .front (List.cons_ne_nil c w) (List.forall_mem_cons.mpr ⟨hc, hw⟩) hrest h
    | cons e blanks =>
      cases hds
      rw [List.forall_mem_cons, hd] at hblanks
      exact absurd hblanks.1 Bool.false_ne_true

end Separated

namespace WordLemmas

theorem separated_splitBlanks (cs : List Char) : Separated cs (splitBlanks cs) := by
  fun_induction splitBlanks cs with
  | case1 => exact .none (List.forall_mem_nil _)
  | case2 c cs hc ih => exact ih.blanks_append (List.forall_mem_singleton.mpr hc)
  | case3 c hc =>
    exact .alone (List.cons_ne_nil _ _) (List.forall_mem_singleton.mpr (Bool.eq_false_iff.mpr hc))
  | case4 c hc d cs hd ih =>
    refine .front (List.cons_ne_nil c []) ?_ (by simpa using hd) ih
    exact List.forall_mem_singleton.mpr (Bool.eq_false_iff.mpr hc)
  | case5 c hc d cs hd ih => exact ih.cons_extend (Bool.eq_false_iff.mpr hc) (Bool.eq_false_iff.mpr hd)

theorem splitBlanks_blanks_append (hb : ∀ c ∈ b, isBlank c = true) (cs : List Char) :
    splitBlanks (b ++ cs) = splitBlanks cs := by
  induction b with
  | nil => rfl
  | cons c b ih =>
    rw [List.forall_mem_cons] at hb
    rw [List.cons_append, splitBlanks.eq_def]
    simp only [hb.1, if_true]
    exact ih hb.2

theorem splitBlanks_word_append (hne : w ≠ []) (hw : ∀ c ∈ w, isBlank c = false)
    (hrest : ∀ c ∈ cs.head?, isBlank c = true) : splitBlanks (w ++ cs) = w :: splitBlanks cs := by
  induction w with
  | nil => exact absurd rfl hne
  | cons c w ih =>
    rw [List.forall_mem_cons] at hw
    rw [List.cons_append, splitBlanks.eq_def]
    simp only [hw.1, Bool.false_eq_true, if_false]
    cases w with
    | nil =>
      cases cs with
      | nil => simp [splitBlanks]
      | cons d cs => simp [hrest d rfl]
    | cons d w =>
      have hd : isBlank d = false := (List.forall_mem_cons.mp hw.2).1
      rw [ih (List.cons_ne_nil d w) hw.2]
      simp [hd, extendFirst]

end WordLemmas

open BlankLemmas WordLemmas

/-! ## Words of texts -/

/-- Every text has its words, and there is one way only to find words in it. -/
theorem separated_iff : Separated cs ws ↔ splitBlanks cs = ws := by
  constructor
  · intro h
    induction h with
    | none hblanks => exact (splitBlanks_eq_nil_iff _).mpr hblanks
    | word hblanks hne hw hrest _ ih =>
      rw [List.append_assoc, splitBlanks_blanks_append hblanks,
        splitBlanks_word_append hne hw hrest, ih]
  · rintro rfl
    exact separated_splitBlanks cs

theorem Separated.append (hb : ∀ c ∈ b, isBlank c = true) (hne : b ≠ []) (hv : Separated v vs)
    (hu : Separated u us) : Separated (v ++ b ++ u) (vs ++ us) := by
  induction hv with
  | none hv => exact hu.blanks_append (List.forall_mem_append.mpr ⟨hv, hb⟩)
  | @word blanks w rest ws hblanks hw hword hrest _ ih =>
    have layout : blanks ++ w ++ rest ++ b ++ u = blanks ++ w ++ (rest ++ b ++ u) := by
      simp only [List.append_assoc]
    rw [layout, List.cons_append]
    refine .word hblanks hw hword ?_ ih
    -- what comes next is in the rest, or else it is the first of the blanks
    cases rest with
    | cons c rest => exact hrest
    | nil =>
      cases b with
      | nil => exact absurd rfl hne
      | cons c b => simpa using (List.forall_mem_cons.mp hb).1

theorem words_append {v b u : String} (hb : ∀ c ∈ b.toList, isBlank c = true) (hne : b ≠ "") :
    words (v ++ b ++ u) = words v ++ words u := by
  have hne : b.toList ≠ [] := fun h => hne (String.toList_eq_nil_iff.mp h)
  have both := (separated_splitBlanks v.toList).append hb hne (separated_splitBlanks u.toList)
  rw [words, String.toList_append, String.toList_append, separated_iff.mp both, List.map_append]
  rfl

/-- Words joined by blanks stand in the text. -/
theorem separated_intercalate (hb : ∀ c ∈ b, isBlank c = true) (hne : b ≠ [])
    (hws : ∀ w ∈ ws, w ≠ [] ∧ ∀ c ∈ w, isBlank c = false) : Separated (b.intercalate ws) ws := by
  induction ws with
  | nil => exact .none (List.forall_mem_nil _)
  | cons w ws ih =>
    rw [List.forall_mem_cons] at hws
    cases ws with
    | nil => simpa using Separated.alone hws.1.1 hws.1.2
    | cons w' ws =>
      rw [List.intercalate_cons_cons]
      exact (Separated.alone hws.1.1 hws.1.2).append hb hne (ih hws.2)

/-! ## Trimmed texts -/

theorem Separated.append_blanks (hb : ∀ c ∈ b, isBlank c = true) (h : Separated cs ws) :
    Separated (cs ++ b) ws := by
  by_cases hne : b = []
  · simpa [hne] using h
  · simpa using h.append hb hne (.none (List.forall_mem_nil _))

namespace WordLemmas

theorem dropWhile_isBlank_append (hb : ∀ c ∈ b, isBlank c = true)
    (hcs : ∀ c ∈ cs.head?, isBlank c = false) : (b ++ cs).dropWhile isBlank = cs := by
  rw [List.dropWhile_append_of_pos hb]
  cases cs with
  | nil => rfl
  | cons c cs => exact List.dropWhile_cons_of_neg (Bool.eq_false_iff.mp (hcs c rfl))

/-- Nothing but blanks is taken away. -/
theorem exists_around_strip (cs : List Char) : ∃ before after, (∀ c ∈ before, isBlank c = true) ∧
    (∀ c ∈ after, isBlank c = true) ∧ cs = before ++ strip cs ++ after := by
  refine ⟨cs.takeWhile isBlank, ((cs.dropWhile isBlank).reverse.takeWhile isBlank).reverse,
    fun c hc => List.mem_takeWhile_imp hc,
    fun c hc => List.mem_takeWhile_imp (List.mem_reverse.mp hc), ?_⟩
  rw [strip, List.append_assoc, ← List.reverse_append, List.takeWhile_append_dropWhile,
    List.reverse_reverse, List.takeWhile_append_dropWhile]

theorem strip_around (hb : ∀ c ∈ b, isBlank c = true) (hw : ∀ c ∈ w, isBlank c = false)
    (hne : w ≠ []) (hv : ∀ c ∈ v, isBlank c = true) : strip (b ++ w ++ v) = w := by
  have head : ∀ c ∈ (w ++ v).head?, isBlank c = false := by
    cases w with
    | nil => exact absurd rfl hne
    | cons d w =>
      intro c hc
      cases hc
      exact hw _ List.mem_cons_self
  have last : ∀ c ∈ w.reverse.head?, isBlank c = false := fun c hc =>
    hw c (List.mem_reverse.mp (List.mem_of_mem_head? hc))
  rw [strip, List.append_assoc, dropWhile_isBlank_append hb head, List.reverse_append,
    dropWhile_isBlank_append (fun c hc => hv c (List.mem_reverse.mp hc)) last, List.reverse_reverse]

end WordLemmas

theorem words_trim (s : String) : words (trim s) = words s := by
  obtain ⟨before, after, hbefore, hafter, whole⟩ := exists_around_strip s.toList
  have stripped := separated_splitBlanks (strip s.toList)
  have around := (stripped.blanks_append hbefore).append_blanks hafter
  rw [← whole, separated_iff] at around
  rw [words, words, around, trim, String.toList_ofList]

theorem words_of_visible {s : String} (hne : s ≠ "") (hs : ∀ c ∈ s.toList, isBlank c = false) :
    words s = [s] := by
  have alone := Separated.alone (fun h => hne (String.toList_eq_nil_iff.mp h)) hs
  rw [words, separated_iff.mp alone, List.map_singleton, String.ofList_toList]

/-- A text has one word only exactly if there is nothing but that word and blanks around it. -/
theorem words_eq_singleton_iff {s w : String} :
    words s = [w] ↔ trim s = w ∧ w ≠ "" ∧ ∀ c ∈ w.toList, isBlank c = false := by
  constructor
  · intro h
    obtain ⟨cs, hcs, rfl⟩ := List.map_eq_singleton_iff.mp h
    generalize htext : s.toList = text at hcs
    cases separated_iff.mpr hcs with
    | word hblanks hne hw _ rest =>
      cases rest with
      | none hrest =>
        rw [trim, htext, strip_around hblanks hw hne hrest, String.toList_ofList]
        exact ⟨rfl, fun h => hne (String.ofList_eq_empty_iff.mp h), hw⟩
  · rintro ⟨rfl, hne, hw⟩
    rw [← words_trim, words_of_visible hne hw]

end Plant.Text
