import Plant.Proofs.Lua.Indentation
import Plant.Proofs.Lua.Placeholder

/-!
# Sections of generated code

When there is anything to write for modes, parameters and objects. A text is empty exactly if what
it is written for has no content, whatever the names, the values and the indentation are, and no
text has a table without an entry.

Results:
1. `operations_eq_empty_iff`, `steps_eq_empty_iff`, `properties_eq_empty_iff`,
   `fields_eq_empty_iff`, `objectInfo_eq_empty_iff`: the texts that are empty.
2. `indented_fields`: the fields of an object are not indented.
3. `sections_exact`: these together, and that every table in a text has an entry.
-/
namespace Plant

/-- A word of the group's value is the number of a registered object of a level that the group
admits. -/
def Group.Attaches (registry : Registry) (g : Group) : Prop :=
  ∃ word ∈ Text.words g.value, ∃ number object level, Number.word64? word = some number ∧
    registry.find? number = some object ∧ object.level? = some level ∧
    g.admission.admits level = true

namespace Lua

variable {object indent : String} {registry : Registry}

open FilledLemmas IndentationLemmas

namespace SectionLemmas

/-- A section of one table is missing exactly if the table has no entries. -/
theorem elim_ofEntries?_eq_nil_iff {α : Type} {header : Line} {depth : Nat} {closing : String}
    {entries : List α} {f : α → List Line} :
    (Table.ofEntries? header depth closing entries).elim [] (Table.lines f) = [] ↔
      entries = [] := by
  rw [Table.ofEntries?]
  split
  case isTrue some => exact iff_of_false (List.cons_ne_nil _ _) some
  case isFalse none => exact iff_of_true rfl (not_not.mp none)

/-- A section of several tables is missing exactly if all of them are. -/
theorem filterMap_flatLines_eq_nil_iff {α : Type} {f : α → Option (Table Line)} {as : List α} :
    (as.filterMap f).flatMap Table.flatLines = [] ↔ ∀ a ∈ as, f a = none := by
  rw [List.flatMap_eq_nil_iff, ← List.filterMap_eq_nil_iff, List.eq_nil_iff_forall_not_mem]
  exact forall_congr' fun t => ⟨fun h ht => flatLines_ne_nil t (h ht), fun h ht => (h ht).elim⟩

theorem mem_namedModes_iff {modes : List Mode} {m : Mode} :
    m ∈ namedModes modes ↔ m ∈ modes ∧ m.operation.isPlaceholder = false := by
  rw [namedModes, List.mem_filter, Bool.not_eq_true']

theorem stepTable?_eq_none_iff (m : Mode) : stepTable? m = none ↔ ∀ s ∈ m.steps, s.name = "" := by
  rw [stepTable?, Table.ofEntries?_eq_none_iff, List.map_eq_nil_iff, List.filter_eq_nil_iff]
  simp

/-! ## Objects -/

theorem member?_ne_none_iff {a : Admission} {word : String} :
    Group.member? registry a word ≠ none ↔ ∃ number object level,
      Number.word64? word = some number ∧ registry.find? number = some object ∧
        object.level? = some level ∧ a.admits level = true := by
  simp [Group.member?]

/-- A group has a table exactly if it attaches an object: without a value it has no words. -/
theorem groupTable?_eq_none_iff (g : Group) :
    groupTable? object registry g = none ↔ ¬ g.Attaches registry := by
  have names : g.memberNames registry = [] ↔ ¬ g.Attaches registry := by
    rw [Group.memberNames, List.filterMap_eq_nil_iff, Group.Attaches, not_exists]
    refine forall_congr' fun word => ?_
    rw [not_and, Option.map_eq_none_iff, ← member?_ne_none_iff, not_not]
  rw [groupTable?]
  split
  case isTrue inert =>
    have empty : g.value = "" := String.isEmpty_iff.mp inert
    refine iff_of_true rfl (names.mp ?_)
    rw [Group.memberNames, empty]
    rfl
  case isFalse =>
    rw [Table.ofEntries?_eq_none_iff, List.map_eq_nil_iff, terminated, List.map_eq_nil_iff, names]

theorem isLine_iff (o : Object) :
    isLine o = true ↔
      o.groups ≠ [] ∧ ∃ op ∈ o.operations, op.luaName = "FILL" ∨ op.luaName = "PUMPING" := by
  simp [isLine, Object.usesGroups, lineOperations]

theorem elim_resetTable?_eq_nil_iff {entries : List String} :
    (resetTable? object entries).elim [] Table.flatLines = [] ↔ entries = [] := by
  unfold resetTable? Table.flatLines
  rw [elim_ofEntries?_eq_nil_iff, List.map_eq_nil_iff]

theorem unitLines_ne_nil (object : String) (master : Option Registered) :
    unitLines object master ≠ [] := by
  rw [unitLines, Ne, List.append_eq_nil_iff, elim_resetTable?_eq_nil_iff]
  simp [unitReset, separated]

end SectionLemmas

open SectionLemmas

/-! ## Texts for modes -/

/-- The table of operations is missing exactly if every mode is that of a placeholder. -/
theorem operations_eq_empty_iff (object indent : String) (modes : List Mode) :
    operations object indent modes = "" ↔ ∀ m ∈ modes, m.operation.isPlaceholder = true := by
  unfold operations operationLines operationTable? Table.flatLines
  rw [write_eq_empty_iff, elim_ofEntries?_eq_nil_iff, List.map_eq_nil_iff, namedModes,
    List.filter_eq_nil_iff]
  simp

/-- The table of steps is missing exactly if every step of the other modes is bound to nothing. -/
theorem steps_eq_empty_iff (object indent : String) (modes : List Mode) :
    steps object indent modes = "" ↔
      ∀ m ∈ modes, m.operation.isPlaceholder = false → ∀ s ∈ m.steps, s.name = "" := by
  unfold steps stepLines stepTables?
  rw [write_eq_empty_iff, elim_ofEntries?_eq_nil_iff, List.filterMap_eq_nil_iff]
  simp only [mem_namedModes_iff, stepTable?_eq_none_iff, and_imp]

/-- The tables of properties are missing exactly if no property is written. -/
theorem properties_eq_empty_iff (object indent : String) (modes : List Mode) :
    properties object indent modes = "" ↔
      ∀ m ∈ modes, ∀ p ∈ m.operation.properties, ¬ p.Written := by
  rw [properties, write_eq_empty_iff, propertyLines, filterMap_flatLines_eq_nil_iff]
  simp only [propertyTable?_eq_none_iff]

/-! ## Texts for parameters and objects -/

/-- The fields of an object are missing exactly if no parameter is written. -/
theorem fields_eq_empty_iff (object : String) (ps : List Parameter) :
    fields object ps = "" ↔ ∀ p ∈ ps, ¬ p.Written := by
  rw [fields, write_eq_empty_iff, fieldLines, List.map_eq_nil_iff, List.filterMap_eq_nil_iff]
  simp only [assignment?_eq_none_iff]

/-- There is no information about an object exactly if it is no unit, attaches nothing and is no
line. -/
theorem objectInfo_eq_empty_iff (object indent : String) (registry : Registry) (o : Object) :
    objectInfo object indent registry o = "" ↔
      o.level ≠ 1 ∧ (∀ g ∈ o.groups, ¬ g.Attaches registry) ∧
        ¬ (o.groups ≠ [] ∧
          ∃ op ∈ o.operations, op.luaName = "FILL" ∨ op.luaName = "PUMPING") := by
  rw [objectInfo, write_eq_empty_iff, infoLines, List.append_eq_nil_iff, connectionLines,
    List.append_eq_nil_iff, filterMap_flatLines_eq_nil_iff, ← isLine_iff, ite_eq_right_iff,
    ite_eq_right_iff, elim_resetTable?_eq_nil_iff]
  simp only [unitLines_ne_nil, groupTable?_eq_none_iff]
  simp [Object.isLevel, Level.number, terminated, lineReset]

/-! ## All sections -/

/-- The text consists of the lines, whatever the indentation is, and in these every table that is
opened has an entry. -/
structure FilledText (text : String → String) (ls : List Line) : Prop where
  indented : Indented text ls
  filled : Filled ls

/-- No line of the fields is indented, so their text is the same for every indentation. -/
theorem indented_fields (object : String) (ps : List Parameter) :
    Indented (fun _ => fields object ps) (fieldLines object ps) := by
  intro indent
  show String.join _ = String.join ((fieldLines object ps).map (Line.text indent))
  rw [fieldLines, List.map_map, List.map_map]
  refine congrArg String.join (List.map_congr_left fun code _ => ?_)
  exact (text_zero "" _).trans (text_zero indent _).symm

/-- Each text is empty exactly if there is no content for it, and consists of lines in which every
table that is opened has an entry. A value that opens a table on its line lists two devices at
least. -/
theorem sections_exact (object indent : String) (registry : Registry) (o : Object)
    (modes : List Mode) (ps : List Parameter) :
    (operations object indent modes = "" ↔ ∀ m ∈ modes, m.operation.isPlaceholder = true) ∧
      (steps object indent modes = "" ↔
        ∀ m ∈ modes, m.operation.isPlaceholder = false → ∀ s ∈ m.steps, s.name = "") ∧
      (properties object indent modes = "" ↔
        ∀ m ∈ modes, ∀ p ∈ m.operation.properties, ¬ p.Written) ∧
      (fields object ps = "" ↔ ∀ p ∈ ps, ¬ p.Written) ∧
      (objectInfo object indent registry o = "" ↔
        o.level ≠ 1 ∧ (∀ g ∈ o.groups, ¬ g.Attaches registry) ∧
          ¬ (o.groups ≠ [] ∧
            ∃ op ∈ o.operations, op.luaName = "FILL" ∨ op.luaName = "PUMPING")) ∧
      (FilledText (operations object · modes) (operationLines object modes) ∧
        FilledText (steps object · modes) (stepLines object modes) ∧
        FilledText (properties object · modes) (propertyLines object modes) ∧
        FilledText (fun _ => fields object ps) (fieldLines object ps) ∧
        FilledText (objectInfo object · registry o) (infoLines object registry o)) ∧
      ∀ p v, value? p = some v → v.toList.head? = some '\x7b' →
        2 ≤ (Text.words p.value).length ∧
          v = "\x7b " ++ ", ".intercalate ((Text.words p.value).map device) ++ " \x7d" := by
  refine ⟨operations_eq_empty_iff object indent modes, steps_eq_empty_iff object indent modes,
    properties_eq_empty_iff object indent modes, fields_eq_empty_iff object ps,
    objectInfo_eq_empty_iff object indent registry o, ?_, fun _ _ => devices_of_value?⟩
  exact ⟨⟨fun _ => rfl, filled_operationLines object modes⟩,
    ⟨fun _ => rfl, filled_stepLines object modes⟩,
    ⟨fun _ => rfl, filled_propertyLines object modes⟩,
    ⟨indented_fields object ps, filled_fieldLines object ps⟩,
    ⟨fun _ => rfl, filled_infoLines object registry o⟩⟩

end Lua

end Plant
