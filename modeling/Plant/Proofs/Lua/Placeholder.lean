import Plant.Object.Edit
import Plant.Proofs.Lua.Assignment

/-!
# Operations without a name in generated code

The tables of operations and of steps leave out the modes whose operation has no name: they are the
same as if these modes were not there. The tables of properties do not look at the name, so a
property that was set for the placeholder is written.

Results:
1. `propertyText_eq_empty_iff`: a mode adds nothing to the tables of properties exactly if no
   property of its operation is written.
2. `without_placeholders`: which of the three texts change if the modes of operations without a
   name are removed.
3. `properties_placeholder`: an object for which the last one does.
-/
namespace Plant.Lua

variable {α : Type}

namespace PlaceholderLemmas

theorem length_join_filter_le (f : α → String) (p : α → Bool) (as : List α) :
    (String.join ((as.filter p).map f)).length ≤ (String.join (as.map f)).length := by
  induction as with
  | nil => exact Nat.le_refl _
  | cons a as ih =>
    rw [List.map_cons, String.join_cons, String.length_append, List.filter_cons]
    split
    · rw [List.map_cons, String.join_cons, String.length_append]
      exact Nat.add_le_add_left ih _
    · exact ih.trans (Nat.le_add_left _ _)

/-- What is left out of a joined text leaves it the same only if it was empty. -/
theorem join_filter_eq_iff (f : α → String) (p : α → Bool) (as : List α) :
    String.join (as.map f) = String.join ((as.filter p).map f) ↔
      ∀ a ∈ as, p a = false → f a = "" := by
  induction as with
  | nil => simp
  | cons a as ih =>
    rw [List.forall_mem_cons, List.map_cons, String.join_cons]
    cases kept : p a with
    | true =>
      rw [List.filter_cons_of_pos kept, List.map_cons, String.join_cons, String.append_right_inj, ih]
      simp
    | false =>
      rw [List.filter_cons_of_neg (by simp [kept])]
      constructor
      · intro same
        -- the rest is at least as long as what is kept of it, so nothing is left for `f a`
        have lengths := congrArg String.length same
        rw [String.length_append] at lengths
        have rest := length_join_filter_le f p as
        have empty : f a = "" := String.length_eq_zero_iff.mp (by omega)
        rw [empty, String.empty_append] at same
        exact ⟨fun _ => empty, ih.mp same⟩
      · rintro ⟨empty, rest⟩
        rw [empty rfl, String.empty_append]
        exact ih.mpr rest

end PlaceholderLemmas

open PlaceholderLemmas

/-! ## Modes that add nothing -/

/-- The text of the table of a mode's properties; empty if there is none. -/
def propertyText (object indent : String) (m : Mode) : String :=
  write indent ((propertyTable? object m).elim [] Table.flatLines)

theorem properties_eq_join (object indent : String) (modes : List Mode) :
    properties object indent modes = String.join (modes.map (propertyText object indent)) := by
  induction modes with
  | nil => rfl
  | cons m modes ih =>
    rw [List.map_cons, String.join_cons, ← ih, propertyText, properties, properties, propertyLines,
      propertyLines, ← write_append]
    cases h : propertyTable? object m <;> simp [h]

theorem isPresent_of_written {p : Parameter} (written : p.Written) : isPresent p = true := by
  obtain ⟨c, hc, -⟩ := written.visible
  have value : p.value ≠ "" := by
    intro empty
    rw [empty] at hc
    cases hc
  simp [isPresent, Parameter.isEmpty, written.named, written.enabled, value]

/-- What is not present is not written, so it does not matter that it was left out before. -/
theorem filterMap_isPresent (ps : List Parameter) :
    (ps.filter isPresent).filterMap assignment? = ps.filterMap assignment? := by
  induction ps with
  | nil => rfl
  | cons p ps ih =>
    cases present : isPresent p with
    | true => rw [List.filter_cons_of_pos present, List.filterMap_cons, List.filterMap_cons, ih]
    | false =>
      have unwritten : assignment? p = none := (assignment?_eq_none_iff p).mpr fun written =>
        absurd (isPresent_of_written written) (by simp [present])
      rw [List.filter_cons_of_neg (by simp [present]), List.filterMap_cons_none unwritten, ih]

theorem filterMap_assignment?_eq_nil_iff (ps : List Parameter) :
    (ps.filter isPresent).filterMap assignment? = [] ↔ ∀ p ∈ ps, ¬ p.Written := by
  rw [filterMap_isPresent, List.filterMap_eq_nil_iff]
  simp only [assignment?_eq_none_iff]

theorem propertyTable?_eq_none_iff (object : String) (m : Mode) :
    propertyTable? object m = none ↔ ∀ p ∈ m.operation.properties, ¬ p.Written := by
  rw [propertyTable?, Table.ofEntries?_eq_none_iff, List.map_eq_nil_iff,
    filterMap_assignment?_eq_nil_iff]

theorem propertyText_eq_empty_iff (object indent : String) (m : Mode) :
    propertyText object indent m = "" ↔ ∀ p ∈ m.operation.properties, ¬ p.Written := by
  rw [← propertyTable?_eq_none_iff object, propertyText, write_eq_empty_iff]
  cases propertyTable? object m with
  | none => exact iff_of_true rfl rfl
  | some t => exact iff_of_false (List.cons_ne_nil _ _) (Option.some_ne_none t)

/-! ## The three texts -/

theorem namedModes_idem (modes : List Mode) : namedModes (namedModes modes) = namedModes modes := by
  rw [namedModes, namedModes, List.filter_filter]
  simp

/-- Without the modes of operations that have no name the tables of operations and of steps are the
same, and empty if there are no other modes. The tables of properties are the same exactly if none
of these operations has a property that is written. -/
theorem without_placeholders (object indent : String) (modes : List Mode) :
    operations object indent modes = operations object indent (namedModes modes) ∧
      steps object indent modes = steps object indent (namedModes modes) ∧
      (namedModes modes = [] →
        operations object indent modes = "" ∧ steps object indent modes = "") ∧
      (properties object indent modes = properties object indent (namedModes modes) ↔
        ∀ m ∈ modes, m.operation.isPlaceholder = true →
          ∀ p ∈ m.operation.properties, ¬ p.Written) := by
  have tables : operations object indent modes = operations object indent (namedModes modes) := by
    rw [operations, operations, operationLines, operationLines, operationTable?, operationTable?,
      namedModes_idem]
  have tablesOfSteps : steps object indent modes = steps object indent (namedModes modes) := by
    rw [steps, steps, stepLines, stepLines, stepTables?, stepTables?, namedModes_idem]
  refine ⟨tables, tablesOfSteps, fun none => ?_, ?_⟩
  · rw [tables, tablesOfSteps, none]
    exact ⟨rfl, rfl⟩
  · rw [properties_eq_join, properties_eq_join, namedModes, join_filter_eq_iff]
    simp only [propertyText_eq_empty_iff, Bool.not_eq_false']

/-! ## A property of the placeholder -/

/-- An object with one operation, which gives a property to the placeholder in front of it. -/
def blankFill : Object :=
  (Object.new .first none).editAll
    [.addOperation "FILL" "Filling" 1,
      .editOperation (.named "") (.addProperty (.new .active "p" "Pressure" "5"))]

/-- The placeholder of an object is written with its properties. -/
theorem properties_placeholder :
    ∃ op ∈ blankFill.operations, op.isPlaceholder = true ∧
      properties "prg.tank1" "\t" [⟨op, 1, []⟩] = "prg.tank1. =\n\t\x7b\n\tp = 5,\n\t\x7d\n" ∧
      properties "prg.tank1" "\t" (namedModes [⟨op, 1, []⟩]) = "" := by
  refine ⟨_, List.mem_cons_self, ?_, ?_, ?_⟩
  all_goals decide +kernel

end Plant.Lua
