import Plant.Proofs.Json.Texts

/-!
# Passing over values

A value that is not asked for is passed over, whatever it is and however deep lists and records are
nested in it: each of its parts takes a step, and there are at most twice as many steps as
characters.

Results:
1. `opens_of_value`: values start as values do.
2. `skips_of_value`: every value is passed over in so many steps.
3. `skipValue_append`: a value that is not asked for is passed over.
-/
namespace Plant.Json

variable {v i s rest : List Char} {vs is : List (List Char)} {frame : Frame} {frames : List Frame}

/-! ## How values start -/

namespace PassingLemmas

theorem opens_of_digit {c : Char} (hc : c.isDigit = true) (cs : List Char) : Opens (c :: cs) := by
  refine ⟨c, cs, rfl, ?_, ?_⟩
  · rw [← Bool.not_eq_true, isSpace_iff]
    rintro mem
    have foreign : ∀ c ∈ [' ', '\n', '\t', '\r'], c.isDigit = false := by simp
    rw [foreign c mem] at hc
    cases hc
  · rintro rfl
    cases hc

theorem numberText_cases (hv : NumberText v) :
    ∃ c cs, v = c :: cs ∧ (c = '-' ∨ c.isDigit = true) := by
  cases hv with
  | @unsigned w _ _ _ _ hw =>
    cases w with
    | nil => exact absurd rfl hw.ne_nil
    | cons c w => exact ⟨c, _, rfl, .inr (hw.isDigit c List.mem_cons_self)⟩
  | negative => exact ⟨_, _, rfl, .inl rfl⟩

theorem opens_of_numberText (hv : NumberText v) : Opens v := by
  obtain ⟨c, cs, rfl, rfl | hc⟩ := numberText_cases hv
  · exact ⟨_, _, rfl, rfl, by decide⟩
  · exact opens_of_digit hc cs

theorem opens_of_between {P : List Char → Prop} (hv : Between P v) : Opens v := by
  obtain ⟨cs, -, rfl⟩ := hv
  exact ⟨_, _, rfl, rfl, by decide⟩

theorem opens_of_enclosed {opening closing : Char} (h : Enclosed opening closing is v)
    (hc : isSpace opening = false) (ne : opening ≠ ']') : Opens v := by
  cases h <;> exact ⟨_, _, rfl, hc, ne⟩

end PassingLemmas

open PassingLemmas

theorem opens_of_value (hv : Value v) : Opens v := by
  cases hv with
  | null | true | false => exact ⟨_, _, rfl, rfl, by decide⟩
  | text h => exact opens_of_between h
  | number h => exact opens_of_numberText h
  | @nested frame _ _ _ _ _ h => cases frame <;> exact opens_of_enclosed h rfl (by decide)

/-! ## Steps -/

/-- The value is passed over in a number of steps. -/
def Skips (v : List Char) : Prop :=
  ∃ n, n + 1 ≤ 2 * v.length ∧ ∀ fuel frames s rest, Spaces s → Ends rest →
    skipFrom .lax (fuel + n) .value frames (s ++ (v ++ rest)) = skipFrom .lax fuel .more frames rest

namespace PassingLemmas

theorem skips_scalar {c : Char} {cs : List Char} (hc : isSpace c = false) (list : c ≠ '[')
    (record : c ≠ '\x7b') (h : ∀ rest, Ends rest → skipScalar .lax c (cs ++ rest) = .ok rest) :
    Skips (c :: cs) := by
  refine ⟨1, by simp only [List.length_cons]; omega, fun fuel frames s rest hs hrest => ?_⟩
  rw [skipFrom, List.cons_append, skipSpace_append hs (starts_cons hc _)]
  simp [list, record, h rest hrest, bind, Except.bind]

theorem skips_number (hv : NumberText v) : Skips v := by
  obtain ⟨c, cs, rfl, hc⟩ := numberText_cases hv
  have foreign : ∀ d ∈ ['n', 't', 'f', '"', '[', '\x7b'], ¬ (d = '-' ∨ d.isDigit = true) := by
    simp
  have other (d : Char) (hd : d ∈ ['n', 't', 'f', '"', '[', '\x7b']) : c ≠ d := by
    rintro rfl
    exact foreign c hd hc
  obtain ⟨_, _, same, space, -⟩ := opens_of_numberText hv
  cases same
  refine skips_scalar space (other _ (by decide)) (other _ (by decide)) fun rest hrest => ?_
  unfold skipScalar
  split
  case h_5 => exact (if_pos hc).trans (skipNumber_append hv hrest)
  all_goals exact absurd rfl (other _ (by decide))

theorem skips_text (hv : Between Loose v) : Skips v := by
  obtain ⟨cs, hcs, rfl⟩ := hv
  refine skips_scalar rfl (by decide) (by decide) fun rest _ => ?_
  rw [List.append_assoc]
  exact skipText_loose hcs rest

/-! ## Lists and records -/

/-- A list or record ends in one step. -/
theorem skipFrom_closing (hs : Spaces s) {awaiting : Awaiting} (ha : awaiting ≠ .value)
    (fuel : Nat) :
    skipFrom .lax (fuel + 1) awaiting (frame :: frames) (s ++ frame.closing :: rest) =
      skipFrom .lax fuel .more frames rest := by
  cases frame with
  | list =>
    have closing := readClosing_append hs (c := ']') rfl rest
    cases awaiting <;> first | exact absurd rfl ha |
      simp [skipFrom, Frame.closing, nextItem?_end hs, closing, bind, Except.bind]
  | record =>
    have closing := readClosing_append hs (c := '\x7d') rfl rest
    cases awaiting <;> first | exact absurd rfl ha |
      simp [skipFrom, skipKey?, Frame.closing, nextKey?_end hs, closing, bind, Except.bind]

theorem length_le_of_holds (hi : frame.Holds v i) : v.length ≤ i.length := by
  cases frame with
  | list =>
    obtain ⟨s, s', -, -, rfl⟩ := hi
    simp only [List.length_append]
    omega
  | record =>
    obtain ⟨s, k, s', i, -, -, -, ⟨t, t', -, -, rfl⟩, rfl⟩ := hi
    simp only [List.length_append, List.length_cons]
    omega

/-- A value of a list or record is come to in one step. -/
theorem skipFrom_holds (hi : frame.Holds v i) (hv : Opens v) :
    ∃ s s', Spaces s ∧ Spaces s' ∧ ∀ fuel frames rest,
      skipFrom .lax (fuel + 1) .first (frame :: frames) (i ++ rest) =
        skipFrom .lax fuel .value (frame :: frames) (s ++ (v ++ (s' ++ rest))) ∧
      ∀ t, Spaces t → skipFrom .lax (fuel + 1) .more (frame :: frames) (t ++ ',' :: (i ++ rest)) =
        skipFrom .lax fuel .value (frame :: frames) (s ++ (v ++ (s' ++ rest))) := by
  cases frame with
  | list =>
    obtain ⟨s, s', hs, hs', rfl⟩ := hi
    refine ⟨[], s', spaces_nil, hs', fun fuel frames rest => ⟨?_, fun t ht => ?_⟩⟩
    · simp [skipFrom, nextItem?_first hs hv, bind, Except.bind]
    · simp [skipFrom, nextItem?_more ht hs hv, bind, Except.bind]
  | record =>
    obtain ⟨t, k, t', i, ht, ⟨cs, hcs, rfl⟩, ht', ⟨s, s', hs, hs', rfl⟩, rfl⟩ := hi
    have key {first : Bool} {text rest : List Char}
        (next : nextKey? first text = .ok (some (cs ++ '"' :: (t' ++ ':' :: rest)))) :
        skipKey? .lax first text = .ok (some rest) := by
      have skipped : skipText (cs ++ '"' :: (t' ++ ':' :: rest)) = _ := skipText_loose hcs _
      have colon : (readColon =<< Except.ok (t' ++ ':' :: rest)) = .ok rest :=
        readColon_append ht' rest
      rw [skipKey?, next]
      show some <$> (readColon =<< skipText _) = _
      rw [skipped, colon]
      rfl
    refine ⟨s, s', hs, hs', fun fuel frames rest => ⟨?_, fun u hu => ?_⟩⟩
    · have found := key (nextKey?_first ht (cs ++ '"' :: (t' ++ ':' :: (s ++ (v ++ (s' ++ rest))))))
      simp [skipFrom, found, bind, Except.bind]
    · have found :=
        key (nextKey?_more hu ht (cs ++ '"' :: (t' ++ ':' :: (s ++ (v ++ (s' ++ rest))))))
      simp [skipFrom, found, bind, Except.bind]

/-- What follows an item: another one or the end. -/
theorem ends_items {closing : Char} (hc : closing ∈ [']', '\x7d']) (is : List (List Char))
    (rest : List Char) : Ends (is.flatMap (',' :: ·) ++ closing :: rest) := by
  cases is with
  | nil => exact ends_cons (List.mem_append_right [' ', '\n', '\t', '\r', ','] hc)
  | cons i is => exact ends_cons (by decide)

theorem closing_mem (frame : Frame) : frame.closing ∈ [']', '\x7d'] := by
  cases frame with
  | list | record => decide

theorem skips_items (h : List.Forall₂ (frame.Holds · ·) vs is) (hv : ∀ v ∈ vs, Opens v)
    (skips : ∀ v ∈ vs, Skips v) :
    ∃ n, n ≤ 2 * (is.flatMap (',' :: ·)).length + 1 ∧ ∀ fuel frames s rest, Spaces s →
      skipFrom .lax (fuel + n) .more (frame :: frames)
          (s ++ (is.flatMap (',' :: ·) ++ frame.closing :: rest)) =
        skipFrom .lax fuel .more frames rest := by
  induction h with
  | nil => exact ⟨1, by simp, fun fuel frames s rest hs => skipFrom_closing hs (by decide) fuel⟩
  | @cons v i vs is hi _ ih =>
    rw [List.forall_mem_cons] at hv skips
    obtain ⟨m, hm, passes⟩ := skips.1
    obtain ⟨n, hn, tail⟩ := ih hv.2 skips.2
    obtain ⟨t, t', ht, ht', comes⟩ := skipFrom_holds hi hv.1
    have length := length_le_of_holds hi
    -- One step comes to the value, `m` pass over it, and `n` over what is left.
    refine ⟨n + m + 1, ?_, fun fuel frames s rest hs => ?_⟩
    · simp only [List.flatMap_cons, List.cons_append, List.length_cons, List.length_append]
      omega
    · rw [← Nat.add_assoc, ← Nat.add_assoc, List.flatMap_cons, List.append_assoc, List.cons_append,
        (comes _ _ _).2 s hs, passes _ _ _ _ ht (ht'.ends (ends_items (closing_mem frame) _ _)),
        tail _ _ _ _ ht']

theorem skips_nested (h : List.Forall₂ (frame.Holds · ·) vs is) (hv : ∀ v ∈ vs, Opens v)
    (skips : ∀ v ∈ vs, Skips v) (hw : Enclosed frame.opening frame.closing is v) : Skips v := by
  have begins (fuel : Nat) (frames : List Frame) {s : List Char} (hs : Spaces s) (cs : List Char) :
      skipFrom .lax (fuel + 1) .value frames (s ++ frame.opening :: cs) =
        skipFrom .lax fuel .first (frame :: frames) cs := by
    rw [skipFrom, skipSpace_append hs (starts_cons (by cases frame <;> rfl) cs)]
    cases frame <;> simp [Frame.opening, Care.allows]
  cases hw with
  | @empty t ht =>
    refine ⟨2, by simp only [List.length_cons, List.length_append]; omega, ?_⟩
    intro fuel frames s rest hs _
    rw [List.cons_append, List.append_assoc, begins _ _ hs]
    exact skipFrom_closing ht (by decide) fuel
  | items i is =>
    cases h with
    | @cons v _ vs _ hi h =>
      rw [List.forall_mem_cons] at hv skips
      obtain ⟨m, hm, passes⟩ := skips.1
      obtain ⟨n, hn, tail⟩ := skips_items h hv.2 skips.2
      obtain ⟨t, t', ht, ht', comes⟩ := skipFrom_holds hi hv.1
      have length := length_le_of_holds hi
      refine ⟨n + m + 1 + 1, ?_, fun fuel frames s rest hs _ => ?_⟩
      · simp only [List.length_cons, List.length_append, List.length_nil]
        omega
      · rw [List.cons_append, ← Nat.add_assoc, ← Nat.add_assoc, ← Nat.add_assoc, begins _ _ hs,
          List.append_assoc, List.append_assoc, List.singleton_append, (comes _ _ _).1,
          passes _ _ _ _ ht (ht'.ends (ends_items (closing_mem frame) _ _))]
        exact tail _ _ _ _ ht'

end PassingLemmas

theorem skips_of_value (hv : Value v) : Skips v := by
  induction hv with
  | null | true | false =>
    refine skips_scalar rfl (by decide) (by decide) fun rest _ => ?_
    exact readWord_append _ rest
  | text h => exact skips_text h
  | number h => exact skips_number h
  | nested hvs h hw ih => exact skips_nested h (fun v hv => opens_of_value (hvs v hv)) ih hw

/-- A value that is not asked for is passed over. -/
theorem skipValue_append (hv : Value v) (hs : Spaces s) (hrest : Ends rest) {bound : Nat}
    (room : v.length ≤ bound) : skipValue bound .lax (s ++ (v ++ rest)) = .ok rest := by
  obtain ⟨n, hn, passes⟩ := skips_of_value hv
  have fuel : 2 * bound + 1 = 2 * bound - n + 1 + n := by omega
  rw [skipValue, fuel, passes _ _ _ _ hs hrest, skipFrom]

end Plant.Json
