import Mathlib.Data.List.TakeWhile
import Plant.Text.Blank

/-!
# Words and trimmed texts

Results:
1. `isBlank_of_mem_words`: no word has a blank in it.
2. `words_eq_nil_iff`: a text has no words exactly if it has only blanks.
3. `mem_of_mem_trim`: trimming a text brings no new character.
4. `trim_eq_empty_iff`: nothing is left of a trimmed text exactly if it has only blanks.
-/
namespace Plant.Text

namespace BlankLemmas

theorem extendFirst_ne_nil (c : Char) (ws : List (List Char)) : extendFirst c ws ≠ [] := by
  cases ws <;> simp [extendFirst]

theorem isBlank_of_mem_extendFirst {c : Char} {ws : List (List Char)} (hc : isBlank c = false)
    (hws : ∀ w ∈ ws, ∀ d ∈ w, isBlank d = false) :
    ∀ w ∈ extendFirst c ws, ∀ d ∈ w, isBlank d = false := by
  cases ws with
  | nil => simpa [extendFirst] using hc
  | cons w ws =>
    rw [List.forall_mem_cons] at hws
    refine List.forall_mem_cons.mpr ⟨?_, hws.2⟩
    exact List.forall_mem_cons.mpr ⟨hc, hws.1⟩

theorem isBlank_of_mem_splitBlanks (cs : List Char) :
    ∀ w ∈ splitBlanks cs, ∀ d ∈ w, isBlank d = false := by
  fun_induction splitBlanks cs with
  | case1 => simp
  | case2 c cs hc ih => exact ih
  | case3 c hc => simpa using hc
  | case4 c hc d cs hd ih => exact List.forall_mem_cons.mpr ⟨by simpa using hc, ih⟩
  | case5 c hc d cs hd ih => exact isBlank_of_mem_extendFirst (by simpa using hc) ih

theorem splitBlanks_eq_nil_iff (cs : List Char) :
    splitBlanks cs = [] ↔ ∀ c ∈ cs, isBlank c = true := by
  fun_induction splitBlanks cs with
  | case1 => simp
  | case2 c cs hc ih => rw [ih, List.forall_mem_cons, and_iff_right hc]
  | case3 c hc => simpa using hc
  | case4 c hc d cs hd ih =>
    rw [List.forall_mem_cons, iff_false_right fun h => hc h.1]
    exact List.cons_ne_nil _ _
  | case5 c hc d cs hd ih =>
    rw [List.forall_mem_cons, iff_false_right fun h => hc h.1]
    exact extendFirst_ne_nil _ _

end BlankLemmas

open BlankLemmas

theorem isBlank_of_mem_words {s w : String} {c : Char} (hw : w ∈ words s) (hc : c ∈ w.toList) :
    isBlank c = false := by
  obtain ⟨cs, hcs, rfl⟩ := List.mem_map.mp hw
  rw [String.toList_ofList] at hc
  exact isBlank_of_mem_splitBlanks s.toList cs hcs c hc

theorem words_eq_nil_iff (s : String) : words s = [] ↔ ∀ c ∈ s.toList, isBlank c = true := by
  rw [words, List.map_eq_nil_iff, splitBlanks_eq_nil_iff]

theorem mem_of_mem_trim {s : String} {c : Char} (hc : c ∈ (trim s).toList) : c ∈ s.toList := by
  rw [trim, String.toList_ofList, strip, List.mem_reverse] at hc
  have h := (List.dropWhile_sublist _).mem hc
  rw [List.mem_reverse] at h
  exact (List.dropWhile_sublist _).mem h

theorem trim_eq_empty_iff (s : String) : trim s = "" ↔ ∀ c ∈ s.toList, isBlank c = true := by
  rw [trim, String.ofList_eq_empty_iff, strip, List.reverse_eq_nil_iff, List.dropWhile_eq_nil_iff]
  constructor
  · intro h c hc
    rw [← List.takeWhile_append_dropWhile (p := isBlank) (l := s.toList), List.mem_append] at hc
    rcases hc with hc | hc
    · exact List.mem_takeWhile_imp hc
    · exact h c (List.mem_reverse.mpr hc)
  · intro h c hc
    exact h c ((List.dropWhile_sublist _).mem (List.mem_reverse.mp hc))

end Plant.Text
