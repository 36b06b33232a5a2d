import Plant.Proofs.Lua.Scan

/-!
# Reading the operation tables back

Readers for the three texts that are written for the modes of an object. Each knows the name of the
object and the indentation, and gets back from the text the modes that were written, in their order
and with repetitions. What a property holds does not matter to it, and of the names only that each
is on one line.

Results:
1. `readOperations_operations`: the numbers of the operations.
2. `readSteps_steps`: the numbers of the steps.
3. `readProperties_properties`: the properties.
4. `read_back`: all three, for modes whose names are on one line.
-/
namespace Plant.Lua

/-! ## Readers -/

/-- The name in a header that ends with an equals sign. -/
def keyOf (header : String) : String := String.ofList header.toList.dropLast.dropLast

/-- An entry whose value is a number. -/
def withNumber (e : String × String) : String × UInt32 :=
  (e.1, UInt32.ofNat (Number.ofDigits e.2.toList))

/-- Reads the table of the numbers of the operations. -/
def readOperations (object indent text : String) : List (String × UInt32) :=
  (scan object.length (repeated indent 1).length (.header object.length []) text.toList).flatMap
    fun table => table.2.map withNumber

/-- What the table of the tables of steps begins with. -/
def stepsOpening (object indent : String) : String :=
  write indent [⟨0, object ++ ".steps = \t\t--Шаги операций."⟩, ⟨1, "\x7b"⟩]

/-- Reads the table of the tables of steps. -/
def readSteps (object indent text : String) : List (String × List (String × UInt32)) :=
  (scan indent.length (repeated indent 2).length
    (.header (indent.length + (stepsOpening object indent).length) []) text.toList).map
      fun table => (keyOf table.1, table.2.map withNumber)

/-- Reads the tables of properties. -/
def readProperties (object indent text : String) : List (String × List (String × String)) :=
  (scan (object ++ ".").length (repeated indent 1).length (.header (object ++ ".").length [])
    text.toList).map fun table => (keyOf table.1, table.2)

/-! ## What is to be read -/

/-- The steps of a mode that have a name. -/
def namedSteps (m : Mode) : List Step := m.steps.filter (!·.name.isEmpty)

/-- The names and values of the properties of a mode that are written. -/
def writtenValues (m : Mode) : List (String × String) :=
  (m.operation.properties.filter isPresent).filterMap fun p => (value? p).map (p.luaName, ·)

/-- The modes have names on one line only, and so is the indentation. -/
structure OnOneLine (indent : String) (modes : List Mode) : Prop where
  indent : '\n' ∉ indent.toList
  keys : ∀ m ∈ modes, '\n' ∉ (operationKey m.operation).toList
  operations : ∀ m ∈ modes, '\n' ∉ m.operation.luaName.toList
  steps : ∀ m ∈ modes, ∀ s ∈ m.steps, '\n' ∉ s.luaName.toList
  properties : ∀ m ∈ modes, ∀ p ∈ m.operation.properties, '\n' ∉ p.luaName.toList

variable {object indent : String} {modes : List Mode}

namespace ReadingLemmas

theorem keyOf_append (name : String) : keyOf (name ++ " =") = name := by
  have sign : " =".toList = [' ', '='] := rfl
  rw [keyOf, String.toList_append, sign, ← List.singleton_append, ← List.append_assoc,
    List.dropLast_concat, List.dropLast_concat, String.ofList_toList]

theorem withNumber_decimal (name : String) (n : UInt32) :
    withNumber (name, Number.decimal n.toNat) = (name, n) := by
  rw [withNumber, Number.ofDigits_decimal, UInt32.ofNat_toNat]

theorem map_withNumber {α : Type} (name : α → String) (number : α → UInt32) (as : List α) :
    (as.map fun a => (name a, Number.decimal (number a).toNat)).map withNumber =
      as.map fun a => (name a, number a) := by
  rw [List.map_map]
  exact List.map_congr_left fun a _ => withNumber_decimal (name a) (number a)

theorem not_mem_assigned {name : String} (h : '\n' ∉ name.toList) :
    '\n' ∉ (name ++ " =").toList := by
  rw [String.toList_append, List.mem_append, not_or]
  exact ⟨h, by decide⟩

theorem readable_number {name : String} (h : '\n' ∉ name.toList) (n : Nat) :
    Readable (name, Number.decimal n) where
  name := h
  value := by
    have numeric := Number.numeric_decimal n
    refine inert_of_visible (fun c hc => (numeric c hc).isBlank_eq) fun head => ?_
    exact (numeric _ (List.mem_of_head? head)).ne_equals rfl

end ReadingLemmas

open ScanLemmas ReadingLemmas

/-! ## Operations -/

/-- The entries of the numbers of the operations. -/
def operationItems (modes : List Mode) : List (String × String) :=
  (namedModes modes).map fun m => (operationKey m.operation, Number.decimal m.number.toNat)

theorem operationTable?_eq (object : String) (modes : List Mode) :
    operationTable? object modes =
      Table.ofEntries? ⟨0, object ++ ".operations = \t\t--Операции."⟩ 1 "\x7d"
        ((operationItems modes).map (entryLine 1)) := by
  rw [operationTable?, operationItems, List.map_map]
  rfl

/-- There is one table at most, so this is a family of tables for the only list of modes. -/
theorem operationLines_eq (object : String) (modes : List Mode) :
    operationLines object modes = ([modes].filterMap (operationTable? object)).flatMap
      Table.flatLines := by
  rw [operationLines]
  cases h : operationTable? object modes <;> simp [h]

theorem shows_operations (object indent : String) {modes : List Mode}
    (hkeys : ∀ m ∈ modes, '\n' ∉ (operationKey m.operation).toList) :
    List.Forall₂ (Shows indent object.length 1) ([modes].filterMap (operationTable? object))
      (([modes].filter fun ms => operationItems ms ≠ []).map fun ms =>
        (".operations = \t\t--Операции.", operationItems ms)) := by
  have header : ∀ ms ∈ [modes], Headed indent object.length
      ⟨0, object ++ ".operations = \t\t--Операции."⟩ ".operations = \t\t--Операции." := by
    rintro - -
    exact headed_zero object (by decide)
  have items : ∀ ms ∈ [modes], ∀ e ∈ operationItems ms, Readable e := by
    intro ms hms e he
    cases List.mem_singleton.mp hms
    obtain ⟨m, hm, rfl⟩ := List.mem_map.mp he
    exact readable_number (hkeys m (List.mem_of_mem_filter hm)) _
  have shows : List.Forall₂ (Shows indent object.length 1) _ _ :=
    forall₂_shows (.inl rfl) header items
  simpa only [← operationTable?_eq] using shows

theorem readOperations_operations (hi : '\n' ∉ indent.toList)
    (hkeys : ∀ m ∈ modes, '\n' ∉ (operationKey m.operation).toList) :
    readOperations object indent (operations object indent modes) =
      (namedModes modes).map fun m => (operationKey m.operation, m.number) := by
  have numbers : (operationItems modes).map withNumber =
      (namedModes modes).map fun m => (operationKey m.operation, m.number) :=
    map_withNumber _ _ _
  rw [readOperations, operations, operationLines_eq,
    scan_text hi (shows_operations object indent hkeys), ← numbers]
  by_cases empty : operationItems modes = []
  · rw [List.filter_cons_of_neg (by simpa using empty), empty]
    rfl
  · rw [List.filter_cons_of_pos (by simpa using empty)]
    exact List.append_nil _

/-! ## Steps -/

/-- The entries of the numbers of a mode's steps. -/
def stepItems (m : Mode) : List (String × String) :=
  (namedSteps m).map fun s => (s.luaName, Number.decimal s.number.toNat)

theorem stepTable?_eq (m : Mode) :
    stepTable? m = Table.ofEntries? ⟨1, operationKey m.operation ++ " ="⟩ 2 "\x7d,"
      ((stepItems m).map (entryLine 2)) := by
  rw [stepTable?, stepItems, namedSteps, List.map_map]
  rfl

/-- The text is empty, or the tables of steps stand between an opening and a closing line. -/
theorem steps_eq (object indent : String) (modes : List Mode) :
    steps object indent modes =
      if (namedModes modes).filterMap stepTable? = [] then ""
      else stepsOpening object indent ++
        (write indent (((namedModes modes).filterMap stepTable?).flatMap Table.flatLines) ++
          write indent [⟨1, "\x7d"⟩]) := by
  rw [steps, stepLines, stepTables?]
  split
  case isTrue empty =>
    rw [empty]
    rfl
  case isFalse h =>
    rw [Table.ofEntries?_of_ne_nil _ _ _ h, stepsOpening, ← write_append, ← write_append]
    rfl

theorem shows_steps (indent : String) {modes : List Mode}
    (hkeys : ∀ m ∈ modes, '\n' ∉ (operationKey m.operation).toList)
    (hsteps : ∀ m ∈ modes, ∀ s ∈ m.steps, '\n' ∉ s.luaName.toList) :
    List.Forall₂ (Shows indent indent.length 2) ((namedModes modes).filterMap stepTable?)
      (((namedModes modes).filter fun m => namedSteps m ≠ []).map fun m =>
        (operationKey m.operation ++ " =", stepItems m)) := by
  have header : ∀ m ∈ namedModes modes, Headed indent indent.length
      ⟨1, operationKey m.operation ++ " ="⟩ (operationKey m.operation ++ " =") := by
    intro m hm
    exact headed_one (not_mem_assigned (hkeys m (List.mem_of_mem_filter hm)))
  have items : ∀ m ∈ namedModes modes, ∀ e ∈ stepItems m, Readable e := by
    intro m hm e he
    obtain ⟨s, hs, rfl⟩ := List.mem_map.mp he
    exact readable_number (hsteps m (List.mem_of_mem_filter hm) s (List.mem_of_mem_filter hs)) _
  have kept : (namedModes modes).filter (fun m => namedSteps m ≠ []) =
      (namedModes modes).filter fun m => stepItems m ≠ [] :=
    List.filter_congr fun m _ => by simp [stepItems]
  have shows : List.Forall₂ (Shows indent indent.length 2) _ _ :=
    forall₂_shows (.inr rfl) header items
  rw [kept]
  simpa only [← stepTable?_eq] using shows

theorem readSteps_steps (hi : '\n' ∉ indent.toList)
    (hkeys : ∀ m ∈ modes, '\n' ∉ (operationKey m.operation).toList)
    (hsteps : ∀ m ∈ modes, ∀ s ∈ m.steps, '\n' ∉ s.luaName.toList) :
    readSteps object indent (steps object indent modes) =
      ((namedModes modes).filter fun m => namedSteps m ≠ []).map fun m =>
        (operationKey m.operation, (namedSteps m).map fun s => (s.luaName, s.number)) := by
  have closing : Headed indent indent.length ⟨1, "\x7d"⟩ "\x7d" := headed_one (by decide)
  have shows := shows_steps indent hkeys hsteps
  have numbers : ∀ m, (stepItems m).map withNumber =
      (namedSteps m).map fun s => (s.luaName, s.number) := fun m => map_withNumber _ _ _
  rw [readSteps, steps_eq]
  split
  case isTrue empty =>
    rw [empty, List.forall₂_nil_left_iff, List.map_eq_nil_iff] at shows
    rw [shows]
    rfl
  case isFalse =>
    -- the opening is passed over, and the closing line stands where a name would be
    rw [String.toList_append, String.toList_append, ← String.length_toList (s := stepsOpening _ _),
      scan_skip, scan_tables hi shows, scan_last closing, List.append_nil, List.map_map]
    simp only [Function.comp_def, keyOf_append, numbers]

/-! ## Properties -/

theorem assignment?_of_isPresent {p : Parameter} (h : isPresent p = true) :
    assignment? p = (value? p).map fun value => p.luaName ++ " = " ++ value := by
  simp only [isPresent, Bool.not_eq_true', Bool.or_eq_false_iff] at h
  rw [assignment?, if_neg (by simp [h.1.1, h.1.2, h.2])]

theorem propertyTable?_eq (object : String) (m : Mode) :
    propertyTable? object m =
      Table.ofEntries? ⟨0, object ++ "." ++ m.operation.luaName ++ " ="⟩ 1 "\x7d"
        ((writtenValues m).map (entryLine 1)) := by
  rw [propertyTable?, writtenValues, List.map_filterMap, List.map_filterMap]
  congr 1
  refine List.filterMap_congr fun p hp => ?_
  rw [assignment?_of_isPresent (List.of_mem_filter hp), Option.map_map, Option.map_map]
  rfl

theorem shows_properties (object indent : String) {modes : List Mode}
    (hnames : ∀ m ∈ modes, '\n' ∉ m.operation.luaName.toList)
    (hproperties : ∀ m ∈ modes, ∀ p ∈ m.operation.properties, '\n' ∉ p.luaName.toList) :
    List.Forall₂ (Shows indent (object ++ ".").length 1) (modes.filterMap (propertyTable? object))
      ((modes.filter fun m => writtenValues m ≠ []).map fun m =>
        (m.operation.luaName ++ " =", writtenValues m)) := by
  have header : ∀ m ∈ modes, Headed indent (object ++ ".").length
      ⟨0, object ++ "." ++ m.operation.luaName ++ " ="⟩ (m.operation.luaName ++ " =") := by
    intro m hm
    rw [String.append_assoc]
    exact headed_zero (object ++ ".") (not_mem_assigned (hnames m hm))
  have items : ∀ m ∈ modes, ∀ e ∈ writtenValues m, Readable e := by
    intro m hm e he
    obtain ⟨p, hp, hpv⟩ := List.mem_filterMap.mp he
    obtain ⟨v, hv, rfl⟩ := Option.map_eq_some_iff.mp hpv
    exact ⟨hproperties m hm p (List.mem_of_mem_filter hp), inert_of_value? hv⟩
  have shows : List.Forall₂ (Shows indent (object ++ ".").length 1) _ _ :=
    forall₂_shows (.inl rfl) header items
  simpa only [← propertyTable?_eq] using shows

theorem readProperties_properties (hi : '\n' ∉ indent.toList)
    (hnames : ∀ m ∈ modes, '\n' ∉ m.operation.luaName.toList)
    (hproperties : ∀ m ∈ modes, ∀ p ∈ m.operation.properties, '\n' ∉ p.luaName.toList) :
    readProperties object indent (properties object indent modes) =
      (modes.filter fun m => writtenValues m ≠ []).map fun m =>
        (m.operation.luaName, writtenValues m) := by
  have shows := shows_properties object indent hnames hproperties
  rw [readProperties, properties, propertyLines, scan_text hi shows, List.map_map]
  simp only [Function.comp_def, keyOf_append]

/-! ## All three tables -/

/-- From the three texts the modes that were written are read back, with their numbers, their steps
and the values of their properties. -/
theorem read_back (object : String) (h : OnOneLine indent modes) :
    readOperations object indent (operations object indent modes) =
        (namedModes modes).map (fun m => (operationKey m.operation, m.number)) ∧
      readSteps object indent (steps object indent modes) =
        ((namedModes modes).filter fun m => namedSteps m ≠ []).map (fun m =>
          (operationKey m.operation, (namedSteps m).map fun s => (s.luaName, s.number))) ∧
      readProperties object indent (properties object indent modes) =
        (modes.filter fun m => writtenValues m ≠ []).map fun m =>
          (m.operation.luaName, writtenValues m) :=
  ⟨readOperations_operations h.indent h.keys, readSteps_steps h.indent h.keys h.steps,
    readProperties_properties h.indent h.operations h.properties⟩

/-- Modes whose names look like braces, headers and entries. -/
def lookalikes : List Mode :=
  let property := Parameter.new .equipment "\x7d = \x7b" "" "=\nV1"
  let brace := (Operation.new "\x7d," "Brace" 1).addProperty property
  let blank := Operation.placeholder.addProperty (Parameter.new .active "= 1," "" " 5e1 ")
  [⟨brace, 7, [⟨"First", "a = 1,", 2⟩, .unbound 3, ⟨"Second", "", 4⟩]⟩, ⟨blank, 8, []⟩,
    ⟨Operation.new "b =" "Header" 2, 9, []⟩, ⟨brace, 7, [⟨"First", "\x7d", 5⟩]⟩]

theorem read_back_lookalikes :
    readOperations "\n\x7b" "" (operations "\n\x7b" "" lookalikes) =
        [("\x7d,", 7), ("B =", 9), ("\x7d,", 7)] ∧
      readSteps "\n\x7b" "" (steps "\n\x7b" "" lookalikes) =
        [("\x7d,", [("a = 1,", 2), ("", 4)]), ("\x7d,", [("\x7d", 5)])] ∧
      readProperties "\n\x7b" "" (properties "\n\x7b" "" lookalikes) =
        [("\x7d,", [("\x7d = \x7b", "\x7b prg.control_modules.=, prg.control_modules.V1 \x7d")]),
          ("", [("= 1,", "5e1")]),
          ("\x7d,", [("\x7d = \x7b", "\x7b prg.control_modules.=, prg.control_modules.V1 \x7d")])] := by
  have lines : OnOneLine "" lookalikes := by
    constructor <;> decide +kernel
  obtain ⟨ofOperations, ofSteps, ofProperties⟩ := read_back "\n\x7b" lines
  rw [ofOperations, ofSteps, ofProperties]
  refine ⟨?_, ?_, ?_⟩ <;> decide +kernel

end Plant.Lua
