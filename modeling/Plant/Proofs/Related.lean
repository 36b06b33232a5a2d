import Mathlib.Data.List.Forall2
import Plant.Entry

/-!
# Related lists and results

Two lists that are related element by element answer the same searches with related elements, and
the same changes make related lists of them again. What looks only at what related elements have in
common makes the same of both. A result that is there comes from results of all the steps.

Results:
1. `rel_find?`, `rel_getElem?`: searches by a test and by position.
2. `Entry.rel_update?`: changes of an entry.
3. `list_beq_iff`, `option_beq_iff`: equal lists are those with equal elements.
4. `bind_eq_ok`: the steps of what does not fail.
-/
namespace Plant

variable {α β γ δ : Type} {R : α → β → Prop}

/-! ## Results -/

/-- The steps of what does not fail are all taken. -/
theorem bind_eq_ok {ε α β : Type} {x : Except ε α} {f : α → Except ε β} {b : β}
    (h : x >>= f = .ok b) : ∃ a, x = .ok a ∧ f a = .ok b := by
  cases x with
  | error e => cases h
  | ok a => exact ⟨a, rfl, h⟩

/-! ## Optional values -/

theorem rel_map {S : γ → δ → Prop} {f : α → γ} {g : β → δ} {a : Option α}
    {b : Option β} (h : Option.Rel R a b) (hfg : ∀ a b, R a b → S (f a) (g b)) :
    Option.Rel S (a.map f) (b.map g) := by
  cases h with
  | none => exact .none
  | some h => exact .some (hfg _ _ h)

theorem rel_getD {a : Option α} {b : Option β} {a' : α} {b' : β} (h : Option.Rel R a b)
    (h' : R a' b') : R (a.getD a') (b.getD b') := by
  cases h with
  | none => exact h'
  | some h => exact h

/-- What is related to something that is there is there. -/
theorem exists_rel_of_eq_some {a : Option α} {b : Option β} {y : β} (h : Option.Rel R a b)
    (hy : b = some y) : ∃ x, a = some x ∧ R x y := by
  cases hy
  cases h with
  | some h => exact ⟨_, rfl, h⟩

theorem rel_of_common {R : α → α → Prop} {a b c : Option α} (ha : Option.Rel R a c)
    (hb : Option.Rel R b c) (common : ∀ {a b c}, R a c → R b c → R a b) : Option.Rel R a b := by
  cases ha with
  | none =>
    cases hb
    exact .none
  | some hac =>
    cases hb with
    | some hbc => exact .some (common hac hbc)

theorem isSome_eq_of_rel {a : Option α} {b : Option β} (h : Option.Rel R a b) :
    a.isSome = b.isSome := by
  cases h <;> rfl

theorem forall₂_toList {a : Option α} {b : Option β} (h : Option.Rel R a b) :
    List.Forall₂ R a.toList b.toList := by
  cases h with
  | none => exact .nil
  | some h => exact .cons h .nil

theorem option_beq_iff [BEq α] {a b : Option α} :
    (a == b) = true ↔ Option.Rel (fun a b => (a == b) = true) a b := by
  cases a <;> cases b <;> simp

/-! ## Searches -/

theorem rel_find? {p : α → Bool} {q : β → Bool} (hpq : ∀ a b, R a b → p a = q b) {as : List α}
    {bs : List β} (h : List.Forall₂ R as bs) : Option.Rel R (as.find? p) (bs.find? q) := by
  induction h with
  | nil => exact .none
  | @cons a b as bs hab _ ih =>
    rw [List.find?_cons, List.find?_cons, hpq a b hab]
    split
    · exact .some hab
    · exact ih

theorem rel_getElem? {as : List α} {bs : List β} (h : List.Forall₂ R as bs) (i : Nat) :
    Option.Rel R as[i]? bs[i]? := by
  induction h generalizing i with
  | nil => exact .none
  | cons hab _ ih =>
    cases i with
    | zero => exact .some hab
    | succ i => exact ih i

/-! ## Changes of an entry -/

theorem rel_updateFirst? {p : α → Bool} {q : β → Bool} {f : α → Option α} {g : β → Option β}
    (hpq : ∀ a b, R a b → p a = q b) (hfg : ∀ a b, R a b → Option.Rel R (f a) (g b))
    {as : List α} {bs : List β} (h : List.Forall₂ R as bs) :
    Option.Rel (List.Forall₂ R) (updateFirst? p f as) (updateFirst? q g bs) := by
  induction h with
  | nil => exact .none
  | @cons a b as bs hab has ih =>
    rw [updateFirst?, updateFirst?, hpq a b hab]
    split
    · exact rel_map (hfg a b hab) fun _ _ hab' => .cons hab' has
    · exact rel_map ih fun _ _ has' => .cons hab has'

theorem rel_updateLast? {f : α → Option α} {g : β → Option β}
    (hfg : ∀ a b, R a b → Option.Rel R (f a) (g b)) {as : List α} {bs : List β}
    (h : List.Forall₂ R as bs) :
    Option.Rel (List.Forall₂ R) (updateLast? f as) (updateLast? g bs) := by
  induction h with
  | nil => exact .none
  | @cons a b as bs hab has ih =>
    cases has with
    | nil => exact rel_map (hfg a b hab) fun _ _ hab' => .cons hab' .nil
    | cons => exact rel_map ih fun _ _ has' => .cons hab has'

theorem Entry.rel_update? (which : Entry) {name : α → String} {name' : β → String}
    {f : α → Option α} {g : β → Option β} (names : ∀ a b, R a b → name a = name' b)
    (hfg : ∀ a b, R a b → Option.Rel R (f a) (g b)) {as : List α} {bs : List β}
    (h : List.Forall₂ R as bs) :
    Option.Rel (List.Forall₂ R) (which.update? name f as) (which.update? name' g bs) := by
  cases which with
  | named n => exact rel_updateFirst? (fun a b hab => by rw [names a b hab]) hfg h
  | last => exact rel_updateLast? hfg h

/-! ## Whole lists -/

theorem list_beq_iff [BEq α] {as bs : List α} :
    (as == bs) = true ↔ List.Forall₂ (fun a b => (a == b) = true) as bs := by
  induction as generalizing bs with
  | nil => cases bs <;> simp
  | cons a as ih => cases bs <;> simp [ih]

/-- What is made of each element is related to that element. -/
theorem forall₂_map {f : α → β} (h : ∀ a, R a (f a)) (as : List α) :
    List.Forall₂ R as (as.map f) :=
  List.forall₂_map_right_iff.mpr (List.forall₂_same.mpr fun a _ => h a)

/-- Two lists that are both related to a third one are related to each other, if this holds of
elements. -/
theorem forall₂_of_common {R : α → α → Prop} {as bs cs : List α} (ha : List.Forall₂ R as cs)
    (hb : List.Forall₂ R bs cs) (common : ∀ {a b c}, R a c → R b c → R a b) :
    List.Forall₂ R as bs := by
  induction ha generalizing bs with
  | nil =>
    cases hb
    exact .nil
  | cons hac _ ih =>
    cases hb with
    | cons hbc hb => exact .cons (common hac hbc) (ih hb)

theorem isEmpty_eq_of_forall₂ {as : List α} {bs : List β} (h : List.Forall₂ R as bs) :
    as.isEmpty = bs.isEmpty := by
  cases h <;> rfl

theorem forall₂_filter {p : α → Bool} {q : β → Bool} (hpq : ∀ a b, R a b → p a = q b) {as : List α}
    {bs : List β} (h : List.Forall₂ R as bs) : List.Forall₂ R (as.filter p) (bs.filter q) := by
  refine List.rel_filter (fun {a b} hab => ?_) h
  show p a = true ↔ q b = true
  rw [hpq a b hab]

theorem map_eq_of_forall₂ {f : α → γ} {g : β → γ} (hfg : ∀ a b, R a b → f a = g b) {as : List α}
    {bs : List β} (h : List.Forall₂ R as bs) : as.map f = bs.map g := by
  induction h with
  | nil => rfl
  | @cons a b as bs hab _ ih => rw [List.map_cons, List.map_cons, hfg a b hab, ih]

theorem filterMap_eq_of_forall₂ {f : α → Option γ} {g : β → Option γ}
    (hfg : ∀ a b, R a b → f a = g b) {as : List α} {bs : List β} (h : List.Forall₂ R as bs) :
    as.filterMap f = bs.filterMap g := by
  induction h with
  | nil => rfl
  | @cons a b as bs hab _ ih => rw [List.filterMap_cons, List.filterMap_cons, hfg a b hab, ih]

end Plant
