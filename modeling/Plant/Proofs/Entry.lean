import Mathlib.Data.List.Forall2
import Plant.Entry

/-!
# Changes of one entry

A change of one entry of a list leaves every element in its place, and each is either the same as
before or what the change makes of it. So what the change keeps of an element is kept of the whole
list.

Results:
1. `Entry.forall₂_of_update?`: the list before and after, element by element.
2. `Entry.forall_of_update?`: a property that the change keeps holds of all elements again.
3. `Entry.map_of_update?`: an aspect that the change keeps is the same along the whole list.
4. `updateFirst?_of_findIdx?`: the element that is changed is the one that a search finds.
5. `updateFirst?_eq_none_iff`, `exists_firstNamed_of_updateFirst?`: a change by name finds nothing,
   or changes the first element of that name.
-/
namespace Plant

variable {α β : Type}

/-- An element before and after a change that may have been made of it. -/
def Touched (f : α → Option α) (a b : α) : Prop := b = a ∨ f a = some b

namespace EntryLemmas

theorem forall₂_untouched (f : α → Option α) (as : List α) :
    List.Forall₂ (Touched f) as as := by
  induction as with
  | nil => exact .nil
  | cons a as ih => exact .cons (.inl rfl) ih

theorem forall₂_of_updateFirst? {p : α → Bool} {f : α → Option α} {as bs : List α}
    (h : updateFirst? p f as = some bs) : List.Forall₂ (Touched f) as bs := by
  induction as generalizing bs with
  | nil => simp [updateFirst?] at h
  | cons a as ih =>
    rw [updateFirst?] at h
    split at h
    · obtain ⟨b, hb, rfl⟩ := Option.map_eq_some_iff.mp h
      exact .cons (.inr hb) (forall₂_untouched f as)
    · obtain ⟨bs', hbs, rfl⟩ := Option.map_eq_some_iff.mp h
      exact .cons (.inl rfl) (ih hbs)

theorem forall₂_of_updateLast? {f : α → Option α} {as bs : List α}
    (h : updateLast? f as = some bs) : List.Forall₂ (Touched f) as bs := by
  induction as generalizing bs with
  | nil => simp [updateLast?] at h
  | cons a as ih =>
    cases as with
    | nil =>
      obtain ⟨b, hb, rfl⟩ := Option.map_eq_some_iff.mp h
      exact .cons (.inr hb) .nil
    | cons a' as =>
      obtain ⟨bs', hbs, rfl⟩ := Option.map_eq_some_iff.mp h
      exact .cons (.inl rfl) (ih hbs)

end EntryLemmas

open EntryLemmas

/-! ## Any entry -/

theorem Entry.forall₂_of_update? {which : Entry} {name : α → String} {f : α → Option α}
    {as bs : List α} (h : which.update? name f as = some bs) :
    List.Forall₂ (Touched f) as bs := by
  cases which with
  | named n => exact forall₂_of_updateFirst? h
  | last => exact forall₂_of_updateLast? h

theorem forall_of_touched {P : α → Prop} {f : α → Option α} {as bs : List α}
    (keep : ∀ a b, f a = some b → P a → P b) (h : List.Forall₂ (Touched f) as bs)
    (all : ∀ a ∈ as, P a) : ∀ b ∈ bs, P b := by
  induction h with
  | nil => exact all
  | @cons a b as bs hab _ ih =>
    simp only [List.forall_mem_cons] at all ⊢
    refine ⟨?_, ih all.2⟩
    rcases hab with rfl | hab
    · exact all.1
    · exact keep a b hab all.1

theorem map_of_touched {g : α → β} {f : α → Option α} {as bs : List α}
    (keep : ∀ a b, f a = some b → g b = g a) (h : List.Forall₂ (Touched f) as bs) :
    bs.map g = as.map g := by
  induction h with
  | nil => rfl
  | @cons a b as bs hab _ ih =>
    rw [List.map_cons, List.map_cons, ih]
    rcases hab with rfl | hab
    · rfl
    · rw [keep a b hab]

theorem Entry.forall_of_update? {P : α → Prop} {which : Entry} {name : α → String}
    {f : α → Option α} {as bs : List α} (keep : ∀ a b, f a = some b → P a → P b)
    (h : which.update? name f as = some bs) (all : ∀ a ∈ as, P a) : ∀ b ∈ bs, P b :=
  forall_of_touched keep (forall₂_of_update? h) all

theorem Entry.map_of_update? {g : α → β} {which : Entry} {name : α → String}
    {f : α → Option α} {as bs : List α} (keep : ∀ a b, f a = some b → g b = g a)
    (h : which.update? name f as = some bs) : bs.map g = as.map g :=
  map_of_touched keep (forall₂_of_update? h)

/-- What is changed is the element at the position where a search by the same test ends. -/
theorem updateFirst?_of_findIdx? {p : α → Bool} {as : List α} {i : Nat} {a : α}
    (found : as.findIdx? p = some i) (ha : as[i]? = some a) (f : α → Option α) :
    updateFirst? p f as = (f a).map fun b => as.set i b := by
  induction as generalizing i with
  | nil => cases found
  | cons a' as ih =>
    rw [List.findIdx?_cons] at found
    rw [updateFirst?]
    split at found
    case isTrue here =>
      cases found
      cases ha
      rw [if_pos here]
      rfl
    case isFalse later =>
      obtain ⟨j, hj, rfl⟩ := Option.map_eq_some_iff.mp found
      rw [if_neg later, ih hj ha, Option.map_map]
      rfl

/-! ## The first entry of a name -/

/-- An element of the name, and what stands before and behind it in the list. No element before it
has that name. -/
structure FirstNamed (name : α → String) (wanted : String) (as before : List α) (a : α)
    (after : List α) : Prop where
  split : as = before ++ a :: after
  earlier : ∀ b ∈ before, name b ≠ wanted
  named : name a = wanted

section Named

variable {name : α → String} {wanted : String} {as before after : List α} {a : α}

/-- Either there is no element of the name, or one of them is the first. -/
theorem forall_or_firstNamed (name : α → String) (wanted : String) (as : List α) :
    (∀ a ∈ as, name a ≠ wanted) ∨
      ∃ before a after, FirstNamed name wanted as before a after := by
  induction as with
  | nil => exact .inl (List.forall_mem_nil _)
  | cons a as ih =>
    by_cases here : name a = wanted
    · exact .inr ⟨[], a, as, rfl, List.forall_mem_nil _, here⟩
    · rcases ih with none | ⟨before, b, after, split, earlier, named⟩
      · exact .inl (List.forall_mem_cons.mpr ⟨here, none⟩)
      · refine .inr ⟨a :: before, b, after, ?_, List.forall_mem_cons.mpr ⟨here, earlier⟩, named⟩
        rw [split, List.cons_append]

theorem find?_eq_none (absent : ∀ a ∈ as, name a ≠ wanted) :
    as.find? (name · == wanted) = none :=
  List.find?_eq_none.mpr fun a ha => by simpa using absent a ha

theorem updateFirst?_eq_none (absent : ∀ a ∈ as, name a ≠ wanted) (f : α → Option α) :
    updateFirst? (name · == wanted) f as = none := by
  induction as with
  | nil => rfl
  | cons a as ih =>
    rw [List.forall_mem_cons] at absent
    rw [updateFirst?, if_neg (by simpa using absent.1), ih absent.2]
    rfl

namespace FirstNamed

theorem not_forall (h : FirstNamed name wanted as before a after) :
    ¬ ∀ b ∈ as, name b ≠ wanted := by
  intro none
  refine none a ?_ h.named
  rw [h.split]
  exact List.mem_append_right _ List.mem_cons_self

theorem find?_eq (h : FirstNamed name wanted as before a after) :
    as.find? (name · == wanted) = some a := by
  refine List.find?_eq_some_iff_append.mpr ⟨by simpa using h.named, before, after, h.split, ?_⟩
  simpa using h.earlier

/-- The search for the name looks no further, so what it finds tells which element is the first. -/
theorem unique {before' after' : List α} {a' : α} (h : FirstNamed name wanted as before a after)
    (h' : FirstNamed name wanted as before' a' after') : a = a' :=
  Option.some.inj (h.find?_eq.symm.trans h'.find?_eq)

/-- Another element of the name may take the place of the first one. -/
theorem replace (h : FirstNamed name wanted as before a after) {b : α} (hb : name b = wanted) :
    FirstNamed name wanted (before ++ b :: after) before b after :=
  ⟨rfl, h.earlier, hb⟩

theorem updateFirst?_eq (h : FirstNamed name wanted as before a after) (f : α → Option α) :
    updateFirst? (name · == wanted) f as = (f a).map fun b => before ++ b :: after := by
  obtain ⟨rfl, earlier, named⟩ := h
  induction before with
  | nil => exact if_pos (by simpa using named)
  | cons b before ih =>
    rw [List.forall_mem_cons] at earlier
    rw [List.cons_append, updateFirst?, if_neg (by simpa using earlier.1), ih earlier.2,
      Option.map_map]
    rfl

end FirstNamed

/-- A change by name that refuses no element is refused exactly if there is none of the name. -/
theorem updateFirst?_eq_none_iff {change : α → α} :
    updateFirst? (name · == wanted) (fun a => some (change a)) as = none ↔
      ∀ a ∈ as, name a ≠ wanted := by
  refine ⟨fun refused => ?_, fun absent => updateFirst?_eq_none absent _⟩
  rcases forall_or_firstNamed name wanted as with absent | ⟨before, a, after, first⟩
  · exact absent
  · rw [first.updateFirst?_eq] at refused
    cases refused

/-- Otherwise it changes the first one. -/
theorem exists_firstNamed_of_updateFirst? {change : α → α} {bs : List α}
    (h : updateFirst? (name · == wanted) (fun a => some (change a)) as = some bs) :
    ∃ before a after, FirstNamed name wanted as before a after ∧
      bs = before ++ change a :: after := by
  rcases forall_or_firstNamed name wanted as with absent | ⟨before, a, after, first⟩
  · rw [updateFirst?_eq_none absent] at h
    cases h
  · rw [first.updateFirst?_eq] at h
    cases h
    exact ⟨before, a, after, first, rfl⟩

end Named

/-! ## The last entry -/

/-- In a list that ends in `a` it is `a` that a change of the last element changes. -/
theorem updateLast?_append_singleton (f : α → Option α) (as : List α) (a : α) :
    updateLast? f (as ++ [a]) = (f a).map fun b => as ++ [b] := by
  induction as with
  | nil => rfl
  | cons a' as ih =>
    cases as with
    | nil => simp [updateLast?, Function.comp_def]
    | cons a'' as =>
      have ih' : updateLast? f (a'' :: (as ++ [a])) = _ := ih
      simp [updateLast?, ih', Function.comp_def]

end Plant
