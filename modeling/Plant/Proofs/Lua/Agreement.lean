import Plant.Proofs.Lua.Indentation
import Plant.Proofs.Lua.Placeholder
import Plant.Proofs.Lua.Values

/-!
# The assignments that are written

Assignments are written for the parameters of an object itself and for the properties of its
operations. Properties are looked at twice: those that have no name, are disabled or have an empty
value are left out before there is any assignment, and others if the assignment turns out to be
empty, as for a value of blanks. The parameters of an object are only looked at in the second way.
It makes no difference: the same parameters are written, and their assignments are the same.

Results:
1. `assignmentText_eq_empty_iff`, `assignmentText_of_written`: which parameters have an assignment,
   and what it looks like behind an indentation.
2. `fields_eq_codes`, `propertyText_eq_codes`: the texts for an object and for an operation, put
   together from the same assignments.
3. `generators_agree`: all of this at once.
-/
namespace Plant

/-- A parameter that is not written lacks a name, is disabled or has only blanks for a value. -/
theorem Parameter.not_written_iff (p : Parameter) :
    ¬ p.Written ↔
      p.luaName = "" ∨ p.disabled = true ∨ ∀ c ∈ p.value.toList, Text.isBlank c = true := by
  constructor
  · intro unwritten
    by_contra other
    simp only [not_or, not_forall, Bool.not_eq_true, exists_prop] at other
    obtain ⟨named, enabled, visible⟩ := other
    exact unwritten ⟨named, enabled, visible⟩
  · rintro (nameless | disabled | blank) written
    · exact written.named nameless
    · cases written.enabled.symm.trans disabled
    · obtain ⟨c, hc, visible⟩ := written.visible
      cases visible.symm.trans (blank c hc)

namespace Lua

variable {p : Parameter} {v : String}

open DeviceLemmas FilledLemmas IndentationLemmas ValueLemmas

/-! ## One parameter -/

theorem ne_empty_of_devices? {names : List String} (h : devices? names = some v) : v ≠ "" := by
  rintro rfl
  obtain ⟨c, hc, -⟩ := exists_foreign_of_devices? h
  cases hc

/-- A number has digits, a reference names a table, and a parameter that is true or false holds one
of the two words: no value is empty. -/
theorem ne_empty_of_value? (h : value? p = some v) : v ≠ "" := by
  unfold value? at h
  split at h
  case h_1 => exact ne_empty_of_devices? h
  case h_2 =>
    split at h
    case isTrue number =>
      cases h
      exact fun empty => (numeric_of_isNumber number).1 (String.toList_eq_nil_iff.mpr empty)
    case isFalse => exact ne_empty_of_devices? h
  case h_3 kind | h_4 kind =>
    cases h
    rcases p.value_of_isBool (by rw [kind]; rfl) with value | value <;> rw [value] <;> decide

theorem assignmentText_eq_empty_iff (indent : String) (p : Parameter) :
    assignmentText indent p = "" ↔ ¬ p.Written := by
  rw [← assignment?_eq_none_iff, assignmentText]
  cases assignment : assignment? p with
  | none => exact iff_of_true rfl rfl
  | some code =>
    have nonempty := ne_empty_of_assignment? assignment
    simp [String.append_eq_empty_iff, nonempty]

/-- What is written depends on the indentation only in that this stands in front. -/
theorem assignmentText_of_written (indent : String) (written : p.Written) :
    assignmentText indent p = indent ++ assignmentText "" p ∧
      ∃ v, v ≠ "" ∧ assignmentText "" p = p.luaName ++ " = " ++ v := by
  obtain ⟨v, value, renders⟩ := exists_renders written
  have text (indent : String) : assignmentText indent p = indent ++ (p.luaName ++ " = " ++ v) := by
    rw [renders indent]
    simp only [String.append_assoc]
  refine ⟨?_, v, ne_empty_of_value? value, ?_⟩
  · rw [text indent, text "", String.empty_append]
  · rw [text "", String.empty_append]

/-! ## Lists of parameters -/

/-- The assignments that are written, in the order of the parameters. -/
def codes (ps : List Parameter) : List String := (ps.map (assignmentText "")).filter (!·.isEmpty)

theorem codes_eq (ps : List Parameter) : codes ps = ps.filterMap assignment? := by
  rw [codes, filter_assignmentText]
  simp only [String.empty_append, List.map_id_fun', id_eq]

theorem fields_eq_codes (object : String) (ps : List Parameter) :
    fields object ps = String.join ((codes ps).map (object ++ "." ++ · ++ "\n")) := by
  rw [fields, fieldLines, codes_eq, write, List.map_map]
  exact congrArg String.join
    (List.map_congr_left fun code _ => text_zero "" (object ++ "." ++ code))

/-- What is left out of an operation's properties before there is an assignment is not missing. -/
theorem propertyText_eq_codes (object indent : String) (m : Mode) :
    propertyText object indent m =
      InPlace.table (object ++ "." ++ m.operation.luaName ++ " =\n") indent
        (String.join ((codes m.operation.properties).map (indent ++ · ++ ",\n"))) "\x7d\n" := by
  rw [propertyText, propertyTable_eq_inPlace, InPlace.propertyTable, filter_assignmentText,
    filterMap_isPresent, ← codes_eq, List.map_map]
  split
  case isTrue none =>
    rw [List.isEmpty_iff.mp none]
    rfl
  case isFalse => rfl

/-- A parameter has no assignment exactly if it has no name, is disabled or has only blanks for a
value. Otherwise the assignment is its name, an equals sign and a value that is not empty, with the
indentation in front of it. For every list of parameters there is one list of assignments, which are
written for an object if they are its own parameters, and in the table of an operation if they are
its properties. -/
theorem generators_agree (object indent : String) :
    (∀ p : Parameter,
      (assignmentText indent p = "" ↔
        p.luaName = "" ∨ p.disabled = true ∨ ∀ c ∈ p.value.toList, Text.isBlank c = true) ∧
      (assignmentText indent p = "" ∨
        assignmentText indent p = indent ++ assignmentText "" p ∧
          ∃ v, v ≠ "" ∧ assignmentText "" p = p.luaName ++ " = " ++ v)) ∧
    (∀ ps : List Parameter,
      ((ps.filter isPresent).map (assignmentText indent)).filter (!·.isEmpty) =
        (codes ps).map (indent ++ ·) ∧
      fields object ps = String.join ((codes ps).map (object ++ "." ++ · ++ "\n"))) ∧
    ∀ modes : List Mode, properties object indent modes = String.join (modes.map fun m =>
      InPlace.table (object ++ "." ++ m.operation.luaName ++ " =\n") indent
        (String.join ((codes m.operation.properties).map (indent ++ · ++ ",\n"))) "\x7d\n") := by
  refine ⟨fun p => ⟨?_, ?_⟩, fun ps => ⟨?_, fields_eq_codes object ps⟩, fun modes => ?_⟩
  · rw [assignmentText_eq_empty_iff, Parameter.not_written_iff]
  · by_cases written : p.Written
    · exact .inr (assignmentText_of_written indent written)
    · exact .inl ((assignmentText_eq_empty_iff indent p).mpr written)
  · rw [filter_assignmentText, filterMap_isPresent, codes_eq]
  · rw [properties_eq_join]
    exact congrArg String.join
      (List.map_congr_left fun m _ => propertyText_eq_codes object indent m)

/-- A value of blanks is there at first, and is left out later. -/
example : isPresent (.new .equipment "valve" "Valve" " \t") = true ∧
    codes [.new .equipment "valve" "Valve" " \t", .new .active "level" "Level" " 95 ",
      .new .activeBool "wash" "Wash" "", .new .equipment "" "Pump" "M1"] =
      ["level = 95", "wash = false"] := by decide +kernel

end Lua
end Plant
