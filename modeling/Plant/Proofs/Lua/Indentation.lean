import Plant.Proofs.Lua.Filled

/-!
# Indentation

Generated code is written line by line, each line behind the indentation as many times as it is
deep. Here the same text is put together in place: the indentation is written in front of every
brace and every entry, twice where a table is inside another one, and a table is left out if the
text of its entries is empty. Both ways give the same text for every indentation, so which lines
there are and what they say does not depend on it, not even where the text that is looked at begins
with the indentation.

Results:
1. `operations_eq_inPlace`, `steps_eq_inPlace`, `properties_eq_inPlace`, `objectInfo_eq_inPlace`:
   the texts are those put together in place.
2. `operationLines_layout`, `stepLines_layout`, `propertyLines_layout`, `infoLines_layout`: how deep
   the lines of each text are.
3. `indentation_only`: a text in place is its lines, each behind the indentation.
-/
namespace Plant.Lua

variable {α : Type}

/-! ## Text put together in place -/

namespace InPlace

/-- A table: the header, and the entries between braces behind an indentation; nothing if there is
no text of entries. -/
def table (header indent entries closing : String) : String :=
  if entries.isEmpty then "" else header ++ indent ++ "\x7b\n" ++ entries ++ indent ++ closing

/-- The table of the numbers of the operations. -/
def operations (object indent : String) (modes : List Mode) : String :=
  table (object ++ ".operations = \t\t--Операции.\n") indent
    (String.join ((namedModes modes).map fun m =>
      indent ++ operationKey m.operation ++ " = " ++ Number.decimal m.number.toNat ++ ",\n"))
    "\x7d\n"

/-- The table of the numbers of a mode's steps, which is inside another one. -/
def stepTable (indent : String) (m : Mode) : String :=
  table (indent ++ operationKey m.operation ++ " =\n") (indent ++ indent)
    (String.join ((m.steps.filter (!·.name.isEmpty)).map fun s =>
      indent ++ indent ++ s.luaName ++ " = " ++ Number.decimal s.number.toNat ++ ",\n"))
    "\x7d,\n"

/-- The table of the tables of steps. -/
def steps (object indent : String) (modes : List Mode) : String :=
  table (object ++ ".steps = \t\t--Шаги операций.\n") indent
    (String.join ((namedModes modes).map (stepTable indent))) "\x7d\n"

/-- The table of a mode's properties. Whether a property is written is seen from its assignment
behind the indentation. -/
def propertyTable (object indent : String) (m : Mode) : String :=
  if m.operation.properties.isEmpty then ""
  else table (object ++ "." ++ m.operation.luaName ++ " =\n") indent
    (String.join ((((m.operation.properties.filter isPresent).map (assignmentText indent)).filter
      (!·.isEmpty)).map (· ++ ",\n")))
    "\x7d\n"

/-- The tables of properties. -/
def properties (object indent : String) (modes : List Mode) : String :=
  String.join (modes.map (propertyTable object indent))

/-- What is written for a unit. -/
def unit (object indent : String) (master : Option Registered) : String :=
  (master.elim "" fun r => object ++ ".master = " ++ r.qualifiedName ++ "\n") ++
    table (object ++ ".reset_before_wash =\n") indent
      (",\n".intercalate (unitReset.map (indent ++ object ++ "." ++ ·)) ++ "\n") "\x7d\n"

/-- The table of the members of a group. Its braces are not indented. -/
def groupTable (object indent : String) (registry : Registry) (g : Group) : String :=
  if g.isInert then ""
  else table (object ++ "." ++ g.luaName ++ " =\n") ""
    (String.join ((g.memberNames registry).map (indent ++ · ++ ",\n"))) "\x7d\n"

/-- What is written for what an object connects. -/
def connections (object indent : String) (registry : Registry) (o : Object) : String :=
  (if o.usesGroups then String.join (o.groups.map (groupTable object indent registry)) else "") ++
    if isLine o then
      table (object ++ ".reset_before_wash =\n") indent
        (String.join (lineReset.map (indent ++ object ++ "." ++ · ++ ",\n"))) "\x7d\n"
    else ""

/-- The information about an object. -/
def objectInfo (object indent : String) (registry : Registry) (o : Object) : String :=
  (if o.isLevel .unit then unit object indent registry.processCell else "") ++
    connections object indent registry o

end InPlace

namespace IndentationLemmas

theorem flatMap_filterMap {β γ : Type} (f : α → Option β) (g : β → List γ) (as : List α) :
    (as.filterMap f).flatMap g = as.flatMap fun a => (f a).elim [] g := by
  induction as with
  | nil => rfl
  | cons a as ih =>
    rw [List.filterMap_cons, List.flatMap_cons, ← ih]
    cases f a <;> rfl

theorem write_flatMap (indent : String) (f : α → List Line) (as : List α) :
    write indent (as.flatMap f) = String.join (as.map fun a => write indent (f a)) := by
  induction as with
  | nil => rfl
  | cons a as ih =>
    rw [List.flatMap_cons, write_append, ih, List.map_cons, String.join_cons]

@[simp] theorem text_zero (indent content : String) :
    (Line.mk 0 content).text indent = content ++ "\n" := by
  rw [Line.text, repeated_zero, String.empty_append]

theorem repeated_one (indent : String) : repeated indent 1 = indent := by
  rw [repeated_succ, repeated_zero, String.append_empty]

theorem repeated_two (indent : String) : repeated indent 2 = indent ++ indent := by
  rw [repeated_succ, repeated_one]

/-- A table as lines is the table in place, around the text of the lines of its entries. It is left
out in both cases if there are none, as every entry leaves a trace. -/
theorem write_elim (indent : String) {header : Line} {depth : Nat} {closing : String}
    {f : α → List Line} {entries : List α} (hf : ∀ a ∈ entries, f a ≠ []) :
    write indent ((Table.ofEntries? header depth closing entries).elim [] (Table.lines f)) =
      InPlace.table (header.text indent) (repeated indent depth)
        (write indent (entries.flatMap f)) (closing ++ "\n") := by
  by_cases empty : entries = []
  · rw [Table.ofEntries?_eq_none_iff.mpr empty, empty]
    rfl
  · have text : (write indent (entries.flatMap f)).isEmpty = false := by
      obtain ⟨a, ha⟩ := List.exists_mem_of_ne_nil _ empty
      rw [Bool.eq_false_iff, ne_eq, String.isEmpty_iff, write_eq_empty_iff, List.flatMap_eq_nil_iff]
      exact fun none => hf a ha (none a ha)
    rw [Table.ofEntries?_of_ne_nil _ _ _ empty, InPlace.table, if_neg (by simp [text])]
    simp only [Option.elim_some, Table.lines, write_cons, write_append, write_nil, Line.text,
      String.append_assoc, String.append_empty]
    rfl

theorem write_elim_flatLines (indent : String) {header : Line} {depth : Nat} {closing : String}
    {entries : List Line} :
    write indent ((Table.ofEntries? header depth closing entries).elim [] Table.flatLines) =
      InPlace.table (header.text indent) (repeated indent depth) (write indent entries)
        (closing ++ "\n") := by
  unfold Table.flatLines
  rw [write_elim indent fun _ _ => List.cons_ne_nil _ _, List.flatMap_singleton']

end IndentationLemmas

open FilledLemmas IndentationLemmas

/-! ## The texts in place -/

/-- The table of the numbers of the operations is the one put together in place. -/
theorem operations_eq_inPlace (object indent : String) (modes : List Mode) :
    operations object indent modes = InPlace.operations object indent modes := by
  have entries :
      write indent
          ((namedModes modes).map fun m => numbered 1 (operationKey m.operation) m.number) =
        String.join ((namedModes modes).map fun m => indent ++ operationKey m.operation ++ " = " ++
          Number.decimal m.number.toNat ++ ",\n") := by
    simp [write, numbered, Line.text, repeated_one, String.append_assoc, Function.comp_def]
  rw [operations, operationLines, operationTable?, write_elim_flatLines, entries, text_zero,
    repeated_one, InPlace.operations, String.append_assoc]
  rfl

/-- The table of the numbers of a mode's steps is the one put together in place. -/
theorem stepTable_eq_inPlace (indent : String) (m : Mode) :
    write indent ((stepTable? m).elim [] Table.flatLines) = InPlace.stepTable indent m := by
  have entries :
      write indent
          ((m.steps.filter (!·.name.isEmpty)).map fun s => numbered 2 s.luaName s.number) =
        String.join ((m.steps.filter (!·.name.isEmpty)).map fun s =>
          indent ++ indent ++ s.luaName ++ " = " ++ Number.decimal s.number.toNat ++ ",\n") := by
    simp [write, numbered, Line.text, repeated_two, String.append_assoc, Function.comp_def]
  rw [stepTable?, write_elim_flatLines, entries, repeated_two, InPlace.stepTable, Line.text,
    repeated_one]
  simp [String.append_assoc]

/-- The table of the tables of steps is the one put together in place. -/
theorem steps_eq_inPlace (object indent : String) (modes : List Mode) :
    steps object indent modes = InPlace.steps object indent modes := by
  have entries : write indent (((namedModes modes).filterMap stepTable?).flatMap Table.flatLines) =
      String.join ((namedModes modes).map (InPlace.stepTable indent)) := by
    simp only [flatMap_filterMap, write_flatMap, stepTable_eq_inPlace]
  rw [steps, stepLines, stepTables?, write_elim _ fun t _ => flatLines_ne_nil t, entries,
    repeated_one, text_zero, InPlace.steps, String.append_assoc]
  rfl

/-- An assignment has its equals sign at least. -/
theorem ne_empty_of_assignment? {p : Parameter} {code : String} (h : assignment? p = some code) :
    code ≠ "" := by
  obtain ⟨value, -, rfl⟩ := eq_of_assignment? h
  simp [String.append_eq_empty_iff]

/-- The texts of assignments that are not empty, whatever the indentation in front of them, are
those of the parameters that have an assignment. -/
theorem filter_assignmentText (indent : String) (ps : List Parameter) :
    (ps.map (assignmentText indent)).filter (!·.isEmpty) =
      (ps.filterMap assignment?).map (indent ++ ·) := by
  induction ps with
  | nil => rfl
  | cons p ps ih =>
    rw [List.map_cons, List.filterMap_cons, assignmentText]
    cases assignment : assignment? p with
    | none => simpa using ih
    | some code =>
      -- Even without an indentation the text is not empty, so the parameter is kept.
      have written : (indent ++ code).isEmpty = false := by
        simp [Bool.eq_false_iff, String.append_eq_empty_iff, ne_empty_of_assignment? assignment]
      simp [written, ih]

theorem join_assignmentText (indent : String) (ps : List Parameter) :
    String.join (((ps.map (assignmentText indent)).filter (!·.isEmpty)).map (· ++ ",\n")) =
      write indent ((ps.filterMap assignment?).map fun code => ⟨1, code ++ ","⟩) := by
  rw [filter_assignmentText]
  simp [write, Line.text, repeated_one, String.append_assoc, Function.comp_def]

/-- The table of a mode's properties is the one put together in place. Without properties there is
no need to look at the texts. -/
theorem propertyTable_eq_inPlace (object indent : String) (m : Mode) :
    write indent ((propertyTable? object m).elim [] Table.flatLines) =
      InPlace.propertyTable object indent m := by
  rw [propertyTable?, write_elim_flatLines, ← join_assignmentText, repeated_one, text_zero,
    String.append_assoc, InPlace.propertyTable]
  split
  case isTrue none =>
    rw [List.isEmpty_iff.mp none]
    rfl
  case isFalse => rfl

/-- The tables of properties are those put together in place. -/
theorem properties_eq_inPlace (object indent : String) (modes : List Mode) :
    properties object indent modes = InPlace.properties object indent modes := by
  simp only [properties, propertyLines, flatMap_filterMap, write_flatMap, propertyTable_eq_inPlace,
    InPlace.properties]

/-- What is written for a unit is put together in place. -/
theorem unit_eq_inPlace (object indent : String) (master : Option Registered) :
    write indent (unitLines object master) = InPlace.unit object indent master := by
  have entries : write indent ((separated (unitReset.map (object ++ "." ++ ·))).map (⟨1, ·⟩)) =
      ",\n".intercalate (unitReset.map (indent ++ object ++ "." ++ ·)) ++ "\n" := by
    simp [write, unitReset, separated, Line.text, repeated_one, String.append_assoc]
  rw [unitLines, write_append, resetTable?, write_elim_flatLines, entries, repeated_one, text_zero,
    String.append_assoc, InPlace.unit]
  cases master with
  | none => rfl
  | some master => simp [write_cons, write_nil, masterLine, InPlace.table, String.append_assoc]

/-- The table of the members of a group is the one put together in place. -/
theorem groupTable_eq_inPlace (object indent : String) (registry : Registry) (g : Group) :
    write indent ((groupTable? object registry g).elim [] Table.flatLines) =
      InPlace.groupTable object indent registry g := by
  have entries : write indent ((terminated (g.memberNames registry)).map (⟨1, ·⟩)) =
      String.join ((g.memberNames registry).map (indent ++ · ++ ",\n")) := by
    simp [write, terminated, Line.text, repeated_one, String.append_assoc, Function.comp_def]
  rw [groupTable?, InPlace.groupTable]
  split
  case isTrue => exact write_nil indent
  case isFalse =>
    rw [write_elim_flatLines, entries, repeated_zero, text_zero, String.append_assoc]
    rfl

/-- What is written for what an object connects is put together in place. -/
theorem connections_eq_inPlace (object indent : String) (registry : Registry) (o : Object) :
    write indent (connectionLines object registry o) =
      InPlace.connections object indent registry o := by
  have groups : write indent ((o.groups.filterMap (groupTable? object registry)).flatMap
      Table.flatLines) = if o.usesGroups then
        String.join (o.groups.map (InPlace.groupTable object indent registry)) else "" := by
    simp only [flatMap_filterMap, write_flatMap, groupTable_eq_inPlace]
    split
    case isTrue => rfl
    case isFalse none =>
      have empty : o.groups = [] := by simpa [Object.usesGroups] using none
      rw [empty]
      rfl
  have entries : write indent ((terminated (lineReset.map (object ++ "." ++ ·))).map (⟨1, ·⟩)) =
      String.join (lineReset.map (indent ++ object ++ "." ++ · ++ ",\n")) := by
    simp [write, lineReset, terminated, Line.text, repeated_one, String.append_assoc]
  rw [connectionLines, write_append, groups, InPlace.connections]
  congr 1
  split
  case isTrue =>
    rw [resetTable?, write_elim_flatLines, entries, repeated_one, text_zero, String.append_assoc]
    rfl
  case isFalse => exact write_nil indent

/-- The information about an object is put together in place. -/
theorem objectInfo_eq_inPlace (object indent : String) (registry : Registry) (o : Object) :
    objectInfo object indent registry o = InPlace.objectInfo object indent registry o := by
  rw [objectInfo, infoLines, write_append, connections_eq_inPlace, InPlace.objectInfo]
  split
  case isTrue => rw [unit_eq_inPlace]
  case isFalse => rw [write_nil]

/-! ## Depths -/

/-- All lines are equally deep. -/
def AtDepth (depth : Nat) (ls : List Line) : Prop := ∀ l ∈ ls, l.depth = depth

/-- Tables one after the other, at most one for each title: the titles are `header` deep and the
braces `braces` deep, and between these are some lines, the entries. -/
inductive Tables (header braces : Nat) (closing : String) (Entries : List Line → Prop) :
    List String → List Line → Prop
  | nil : Tables header braces closing Entries [] []
  | missing {title : String} {titles : List String} {ls : List Line} :
      Tables header braces closing Entries titles ls →
      Tables header braces closing Entries (title :: titles) ls
  | table {title : String} {titles : List String} {entries ls : List Line} :
      entries ≠ [] → Entries entries → Tables header braces closing Entries titles ls →
      Tables header braces closing Entries (title :: titles)
        (⟨header, title⟩ :: ⟨braces, "\x7b"⟩ :: (entries ++ ⟨braces, closing⟩ :: ls))

namespace DepthLemmas

variable {header braces : Nat} {closing : String} {Entries : List Line → Prop}

theorem Tables.append {titles titles' : List String} {ls ms : List Line}
    (h : Tables header braces closing Entries titles ls)
    (h' : Tables header braces closing Entries titles' ms) :
    Tables header braces closing Entries (titles ++ titles') (ls ++ ms) := by
  induction h with
  | nil => exact h'
  | missing _ ih => exact .missing ih
  | table some entries _ ih =>
    rw [List.cons_append, List.cons_append, List.cons_append, List.append_assoc]
    exact .table some entries ih

/-- A table that may be missing, if its entries are as they have to be. -/
theorem tables_elim {title : String} {f : α → List Line} {entries : List α}
    (some : ∀ a ∈ entries, f a ≠ []) (h : Entries (entries.flatMap f)) :
    Tables header braces closing Entries [title]
      ((Table.ofEntries? ⟨header, title⟩ braces closing entries).elim [] (Table.lines f)) := by
  by_cases empty : entries = []
  · rw [Table.ofEntries?_eq_none_iff.mpr empty]
    exact .missing .nil
  · rw [Table.ofEntries?_of_ne_nil _ _ _ empty]
    refine .table ?_ h .nil
    obtain ⟨a, ha⟩ := List.exists_mem_of_ne_nil _ empty
    exact fun none => some a ha (List.flatMap_eq_nil_iff.mp none a ha)

theorem tables_elim_flatLines {title : String} {entries : List Line} (h : Entries entries) :
    Tables header braces closing Entries [title]
      ((Table.ofEntries? ⟨header, title⟩ braces closing entries).elim [] Table.flatLines) :=
  tables_elim (fun _ _ => List.cons_ne_nil _ _) (by rwa [List.flatMap_singleton'])

/-- The tables of a list, at most one for each element. -/
theorem tables_filterMap {title : α → String} {table? : α → Option (Table Line)}
    (h : ∀ a, Tables header braces closing Entries [title a] ((table? a).elim [] Table.flatLines))
    (as : List α) :
    Tables header braces closing Entries (as.map title)
      ((as.filterMap table?).flatMap Table.flatLines) := by
  rw [flatMap_filterMap]
  induction as with
  | nil => exact .nil
  | cons a as ih => exact Tables.append (h a) ih

theorem atDepth_map (depth : Nat) (content : α → String) (as : List α) :
    AtDepth depth (as.map fun a => ⟨depth, content a⟩) := by
  intro l hl
  obtain ⟨a, -, rfl⟩ := List.mem_map.mp hl
  rfl

end DepthLemmas

open DepthLemmas

/-- The lines of the numbers of the operations: a table in which everything is one deep. -/
def OperationsLayout (object : String) (ls : List Line) : Prop :=
  Tables 0 1 "\x7d" (AtDepth 1) [object ++ ".operations = \t\t--Операции."] ls

/-- The lines of the numbers of the steps: a table of tables, one for each operation with a name. -/
def StepsLayout (object : String) (modes : List Mode) (ls : List Line) : Prop :=
  Tables 0 1 "\x7d"
    (Tables 1 2 "\x7d," (AtDepth 2)
      ((namedModes modes).map fun m => operationKey m.operation ++ " ="))
    [object ++ ".steps = \t\t--Шаги операций."] ls

/-- The lines of the properties: a table for each mode. -/
def PropertiesLayout (object : String) (modes : List Mode) (ls : List Line) : Prop :=
  Tables 0 1 "\x7d" (AtDepth 1) (modes.map fun m => object ++ "." ++ m.operation.luaName ++ " =") ls

/-- The lines of the information about an object: the master, the table of what is reset in a unit,
a table with braces that are not indented for each group, the table of what is reset in a line. -/
def InfoLayout (object : String) (o : Object) (ls : List Line) : Prop :=
  ∃ master unit groups line, ls = master ++ unit ++ groups ++ line ∧
    AtDepth 0 master ∧ (∀ l ∈ master, ∃ name, l.content = object ++ ".master = " ++ name) ∧
    Tables 0 1 "\x7d" (AtDepth 1) [object ++ ".reset_before_wash ="] unit ∧
    Tables 0 0 "\x7d" (AtDepth 1)
      (o.groups.map fun g => object ++ "." ++ g.luaName ++ " =") groups ∧
    Tables 0 1 "\x7d" (AtDepth 1) [object ++ ".reset_before_wash ="] line

theorem operationLines_layout (object : String) (modes : List Mode) :
    OperationsLayout object (operationLines object modes) :=
  tables_elim_flatLines (atDepth_map _ _ _)

theorem stepLines_layout (object : String) (modes : List Mode) :
    StepsLayout object modes (stepLines object modes) := by
  refine tables_elim (fun t _ => flatLines_ne_nil t) (tables_filterMap (fun m => ?_) _)
  exact tables_elim_flatLines (atDepth_map _ _ _)

theorem propertyLines_layout (object : String) (modes : List Mode) :
    PropertiesLayout object modes (propertyLines object modes) := by
  refine tables_filterMap (fun m => ?_) modes
  exact tables_elim_flatLines (atDepth_map _ _ _)

theorem elim_resetTable?_layout (object : String) (entries : List String) :
    Tables 0 1 "\x7d" (AtDepth 1) [object ++ ".reset_before_wash ="]
      ((resetTable? object entries).elim [] Table.flatLines) :=
  tables_elim_flatLines (atDepth_map _ _ _)

theorem infoLines_layout (object : String) (registry : Registry) (o : Object) :
    InfoLayout object o (infoLines object registry o) := by
  have groups : Tables 0 0 "\x7d" (AtDepth 1)
      (o.groups.map fun g => object ++ "." ++ g.luaName ++ " =")
      ((o.groups.filterMap (groupTable? object registry)).flatMap Table.flatLines) := by
    refine tables_filterMap (fun g => ?_) _
    rw [groupTable?]
    split
    case isTrue => exact .missing .nil
    case isFalse => exact tables_elim_flatLines (atDepth_map _ _ _)
  have line : Tables 0 1 "\x7d" (AtDepth 1) [object ++ ".reset_before_wash ="]
      (if isLine o then
        (resetTable? object (terminated (lineReset.map (object ++ "." ++ ·)))).elim []
          Table.flatLines
      else []) := by
    split
    case isTrue => exact elim_resetTable?_layout object _
    case isFalse => exact .missing .nil
  -- For other levels than that of a unit the first two sections are empty.
  rw [infoLines, connectionLines, ← List.append_assoc]
  split
  case isTrue =>
    have master : ∀ l ∈ (registry.processCell.map (masterLine object)).toList,
        ∃ cell, l = masterLine object cell := fun l hl => by
      obtain ⟨cell, -, rfl⟩ := Option.map_eq_some_iff.mp (Option.mem_toList.mp hl)
      exact ⟨cell, rfl⟩
    refine ⟨_, _, _, _, rfl, fun l hl => ?_, fun l hl => ?_, elim_resetTable?_layout object _,
      groups, line⟩
    · obtain ⟨cell, rfl⟩ := master l hl
      rfl
    · obtain ⟨cell, rfl⟩ := master l hl
      exact ⟨_, rfl⟩
  case isFalse =>
    exact ⟨[], [], _, _, rfl, List.forall_mem_nil _, List.forall_mem_nil _, .missing .nil, groups,
      line⟩

/-! ## Indentation -/

/-- Whatever the indentation is, the text consists of these lines: each is the indentation as many
times as the line is deep, the content and a line feed. -/
def Indented (text : String → String) (ls : List Line) : Prop :=
  ∀ indent, text indent =
    String.join (ls.map fun l => String.join (List.replicate l.depth indent) ++ l.content ++ "\n")

/-- Each text that is put together in place, with the indentation in front of everything, consists
of lines that do not depend on the indentation, with the depths of their layout; and it is the text
that is written line by line. -/
theorem indentation_only (object : String) (registry : Registry) (o : Object)
    (modes : List Mode) :
    (∃ ls, InfoLayout object o ls ∧
      Indented (objectInfo object · registry o) ls ∧
      Indented (InPlace.objectInfo object · registry o) ls) ∧
    (∃ ls, OperationsLayout object ls ∧
      Indented (operations object · modes) ls ∧
      Indented (InPlace.operations object · modes) ls) ∧
    (∃ ls, StepsLayout object modes ls ∧
      Indented (steps object · modes) ls ∧
      Indented (InPlace.steps object · modes) ls) ∧
    (∃ ls, PropertiesLayout object modes ls ∧
      Indented (properties object · modes) ls ∧
      Indented (InPlace.properties object · modes) ls) := by
  refine ⟨⟨_, infoLines_layout object registry o, fun _ => rfl, fun indent => ?_⟩,
    ⟨_, operationLines_layout object modes, fun _ => rfl, fun indent => ?_⟩,
    ⟨_, stepLines_layout object modes, fun _ => rfl, fun indent => ?_⟩,
    ⟨_, propertyLines_layout object modes, fun _ => rfl, fun indent => ?_⟩⟩
  · exact (objectInfo_eq_inPlace object indent registry o).symm
  · exact (operations_eq_inPlace object indent modes).symm
  · exact (steps_eq_inPlace object indent modes).symm
  · exact (properties_eq_inPlace object indent modes).symm

end Plant.Lua
