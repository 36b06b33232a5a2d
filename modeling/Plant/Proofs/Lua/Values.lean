import Plant.Proofs.Lua.Filled
import Plant.Proofs.Number.Magnitude
import Plant.Proofs.Text.Words

/-!
# Numbers and devices in generated code

What stands behind the equals sign for a parameter that holds a number or names of devices. One
device, several devices and a number are written in three ways, and none of them can be taken for
another: a name has no blanks in it, so the spaces of a value are those between its parts, and a
number starts otherwise than a reference. So the names are read back from the value, whatever
characters they have.

Results:
1. `renders_iff`: the parameters that are written, and the values behind their names.
2. `words_of_devices?`: the parts of a value of several devices.
3. `readDevices_of_devices?`: the names are read back.
4. `values_readable`: what a value tells about the text that the parameter holds.
-/
namespace Plant

/-- The parameter may be a number, and what it holds is one. -/
structure Parameter.HoldsNumber (p : Parameter) : Prop where
  active : p.kind = .active
  finite : Number.SpellsFinite (Text.trim p.value).toList

namespace Lua

/-- The value is written for the parameter: whatever the indentation is, it stands in the text behind
the indentation, the name of the parameter and an equals sign. -/
def Renders (p : Parameter) (v : String) : Prop :=
  ∀ indent, assignmentText indent p = indent ++ p.luaName ++ " = " ++ v

/-! ## Reading names of devices -/

/-- The name in a reference. -/
def deviceName (reference : String) : String :=
  String.ofList (reference.toList.drop "prg.control_modules.".length)

/-- The names in the entries of a table. A comma stands behind every reference but the last. -/
def readEntries : List String → List String
  | [] => []
  | [entry] => [deviceName entry]
  | entry :: entries => deviceName (String.ofList entry.toList.dropLast) :: readEntries entries

/-- The names of the devices that a value refers to: one, or those between two braces. -/
def readDevices (v : String) : List String :=
  match Text.words v with
  | [reference] => [deviceName reference]
  | parts => readEntries parts.tail.dropLast

/-- The text has no blanks but spaces. -/
def OnlySpaces (cs : List Char) : Prop := ∀ c ∈ cs, Text.isBlank c = true → c = ' '

instance (cs : List Char) : Decidable (OnlySpaces cs) := List.decidableBAll _ cs

variable {p : Parameter} {v : String} {names : List String}

open FilledLemmas ValueLemmas

/-! ## Values of parameters -/

/-- The text tells the assignment: one that is empty has no equals sign. -/
theorem renders_iff_assignment? :
    Renders p v ↔ assignment? p = some (p.luaName ++ " = " ++ v) := by
  constructor
  · intro h
    have text : assignmentText "" p = p.luaName ++ " = " ++ v := by
      rw [h "", String.empty_append]
    rw [assignmentText] at text
    cases assignment : assignment? p with
    | none =>
      rw [assignment, Option.elim_none] at text
      have nonempty : p.luaName ++ " = " ++ v ≠ "" := by simp [String.append_eq_empty_iff]
      exact absurd text.symm nonempty
    | some code =>
      rw [assignment, Option.elim_some, String.empty_append] at text
      rw [text]
  · intro h indent
    rw [assignmentText, h, Option.elim_some]
    simp only [String.append_assoc]

theorem renders_iff : Renders p v ↔ p.Written ∧ value? p = some v := by
  rw [renders_iff_assignment?]
  constructor
  · intro h
    obtain ⟨w, hw, same⟩ := eq_of_assignment? h
    refine ⟨not_not.mp fun unwritten => ?_, ?_⟩
    · cases h.symm.trans ((assignment?_eq_none_iff p).mpr unwritten)
    · rw [String.append_right_inj] at same
      rw [same, hw]
  · rintro ⟨written, hv⟩
    cases h : assignment? p with
    | none => exact absurd written ((assignment?_eq_none_iff p).mp h)
    | some code =>
      obtain ⟨w, hw, rfl⟩ := eq_of_assignment? h
      cases hw.symm.trans hv
      rfl

theorem exists_renders (written : p.Written) : ∃ v, value? p = some v ∧ Renders p v := by
  cases h : assignment? p with
  | none => exact absurd written ((assignment?_eq_none_iff p).mp h)
  | some code =>
    obtain ⟨v, hv, -⟩ := eq_of_assignment? h
    exact ⟨v, hv, renders_iff.mpr ⟨written, hv⟩⟩

theorem isNumber_iff (s : String) :
    isNumber s = true ↔ Number.SpellsFinite (Text.trim s).toList := by
  rw [isNumber, Number.isFiniteNumeral_iff]

theorem value?_of_holdsNumber (h : p.HoldsNumber) : value? p = some (Text.trim p.value) := by
  unfold value?
  rw [h.active]
  exact if_pos ((isNumber_iff _).mpr h.finite)

theorem value?_of_not_holdsNumber (kind : p.kind = .equipment ∨ p.kind = .active)
    (h : ¬ p.HoldsNumber) : value? p = devices? (Text.words p.value) := by
  unfold value?
  rcases kind with kind | kind
  · rw [kind]
  · rw [kind]
    exact if_neg fun number => h ⟨kind, (isNumber_iff _).mp number⟩

namespace DeviceLemmas

/-! ## Parts of values -/

/-- The parts of the entries of a table, a comma behind every reference but the last. -/
def entryWords : List String → List String
  | [] => []
  | [name] => [device name]
  | name :: names => (device name ++ ",") :: entryWords names

theorem toList_device (name : String) :
    (device name).toList = "prg.control_modules.".toList ++ name.toList := by
  unfold device
  rw [String.toList_append]

theorem device_ne_empty (name : String) : device name ≠ "" := by
  unfold device
  simp [String.append_eq_empty_iff]

theorem visible_of_all {s : String} (h : (s.toList.all fun c => !Text.isBlank c) = true) :
    ∀ c ∈ s.toList, Text.isBlank c = false := by
  simpa using h

theorem visible_device {name : String} (h : ∀ c ∈ name.toList, Text.isBlank c = false) :
    ∀ c ∈ (device name).toList, Text.isBlank c = false := by
  have field : ∀ c ∈ "prg.control_modules.".toList, Text.isBlank c = false :=
    visible_of_all (by decide)
  rw [toList_device]
  exact List.forall_mem_append.mpr ⟨field, h⟩

theorem words_device {name : String} (h : ∀ c ∈ name.toList, Text.isBlank c = false) :
    Text.words (device name) = [device name] :=
  Text.words_of_visible (device_ne_empty name) (visible_device h)

theorem space_blank : ∀ c ∈ " ".toList, Text.isBlank c = true := List.all_eq_true.mp (by decide)

theorem words_entries (h : ∀ name ∈ names, ∀ c ∈ name.toList, Text.isBlank c = false) :
    Text.words (", ".intercalate (names.map device)) = entryWords names := by
  induction names with
  | nil => rfl
  | cons name names ih =>
    obtain ⟨hname, hnames⟩ := List.forall_mem_cons.mp h
    cases names with
    | nil =>
      rw [List.map_singleton, String.intercalate_singleton, words_device hname]
      rfl
    | cons name' names =>
      have entry : Text.words (device name ++ ",") = [device name ++ ","] := by
        refine Text.words_of_visible (by simp [String.append_eq_empty_iff]) ?_
        rw [String.toList_append]
        exact List.forall_mem_append.mpr ⟨visible_device hname, visible_of_all (by decide)⟩
      have layout : ", ".intercalate ((name :: name' :: names).map device) =
          device name ++ "," ++ " " ++ ", ".intercalate ((name' :: names).map device) := by
        have separator : ", " = "," ++ " " := rfl
        rw [List.map_cons, List.map_cons, String.intercalate_cons_cons, ← List.map_cons]
        nth_rewrite 1 [separator]
        simp only [String.append_assoc]
      rw [layout, Text.words_append space_blank (by decide), entry, ih hnames]
      rfl

/-- The parts of a value of several devices are the entries between two braces. -/
theorem words_table (h : ∀ name ∈ names, ∀ c ∈ name.toList, Text.isBlank c = false) :
    Text.words ("\x7b " ++ ", ".intercalate (names.map device) ++ " \x7d") =
      "\x7b" :: (entryWords names ++ ["\x7d"]) := by
  have brace : ∀ s ∈ ["\x7b", "\x7d"], Text.words s = [s] := by decide
  have layout : "\x7b " ++ ", ".intercalate (names.map device) ++ " \x7d" =
      "\x7b" ++ " " ++ (", ".intercalate (names.map device) ++ " " ++ "\x7d") := by
    simp only [String.append_assoc]
    rfl
  rw [layout, Text.words_append space_blank (by decide), Text.words_append space_blank (by decide),
    words_entries h, brace _ (by decide), brace _ (by decide)]
  rfl

theorem length_entryWords (names : List String) : (entryWords names).length = names.length := by
  fun_induction entryWords names with
  | case1 | case2 => rfl
  | case3 name names _ ih => rw [List.length_cons, ih, List.length_cons]

theorem deviceName_device (name : String) : deviceName (device name) = name := by
  rw [deviceName, toList_device, ← String.length_toList, List.drop_left, String.ofList_toList]

theorem readEntries_cons (entry : String) {entries : List String} (h : entries ≠ []) :
    readEntries (entry :: entries) =
      deviceName (String.ofList entry.toList.dropLast) :: readEntries entries := by
  cases entries with
  | nil => exact absurd rfl h
  | cons _ _ => rfl

theorem readEntries_entryWords (names : List String) : readEntries (entryWords names) = names := by
  fun_induction entryWords names with
  | case1 => rfl
  | case2 name => exact congrArg ([·]) (deviceName_device name)
  | case3 name names some ih =>
    have comma : String.ofList (device name ++ ",").toList.dropLast = device name := by
      rw [String.toList_append]
      exact (congrArg _ List.dropLast_concat).trans String.ofList_toList
    have more : entryWords names ≠ [] := by
      intro none
      have length := length_entryWords names
      rw [none] at length
      exact some (List.length_eq_zero_iff.mp length.symm)
    rw [readEntries_cons _ more, comma, deviceName_device, ih]

/-! ## Spaces -/

theorem onlySpaces_of_visible {cs : List Char} (h : ∀ c ∈ cs, Text.isBlank c = false) :
    OnlySpaces cs := fun c hc blank => by simp [h c hc] at blank

theorem OnlySpaces.append {cs ds : List Char} (hcs : OnlySpaces cs) (hds : OnlySpaces ds) :
    OnlySpaces (cs ++ ds) := List.forall_mem_append.mpr ⟨hcs, hds⟩

theorem onlySpaces_entries (h : ∀ name ∈ names, ∀ c ∈ name.toList, Text.isBlank c = false) :
    OnlySpaces (", ".intercalate (names.map device)).toList := by
  have separator : OnlySpaces ", ".toList := by decide
  induction names with
  | nil => exact List.forall_mem_nil _
  | cons name names ih =>
    obtain ⟨hname, hnames⟩ := List.forall_mem_cons.mp h
    have first := onlySpaces_of_visible (visible_device hname)
    cases names with
    | nil =>
      rw [List.map_singleton, String.intercalate_singleton]
      exact first
    | cons name' names =>
      rw [List.map_cons, List.map_cons, String.intercalate_cons_cons, ← List.map_cons,
        String.toList_append, String.toList_append]
      exact OnlySpaces.append (OnlySpaces.append first separator) (ih hnames)

end DeviceLemmas

open DeviceLemmas

/-! ## Values of devices -/

/-- The value of one device is a reference, that of several has a brace at either end. -/
theorem cases_of_devices? (h : devices? names = some v) :
    (∃ name, names = [name] ∧ v = device name) ∨
      (2 ≤ names.length ∧ v = "\x7b " ++ ", ".intercalate (names.map device) ++ " \x7d") := by
  match names with
  | [] => cases h
  | [name] =>
    cases h
    exact .inl ⟨name, rfl, rfl⟩
  | _ :: _ :: _ =>
    cases h
    exact .inr ⟨by simp, rfl⟩

theorem words_of_devices? (hnames : ∀ name ∈ names, ∀ c ∈ name.toList, Text.isBlank c = false)
    (h : devices? names = some v) :
    Text.words v = if names.length = 1 then entryWords names
      else "\x7b" :: (entryWords names ++ ["\x7d"]) := by
  rcases cases_of_devices? h with ⟨name, rfl, rfl⟩ | ⟨several, rfl⟩
  · exact words_device (hnames name (List.mem_singleton_self name))
  · rw [if_neg (by omega), words_table hnames]

/-- The names of the devices are read back, whatever characters but blanks they have. -/
theorem readDevices_of_devices?
    (hnames : ∀ name ∈ names, ∀ c ∈ name.toList, Text.isBlank c = false)
    (h : devices? names = some v) : readDevices v = names := by
  unfold readDevices
  rw [words_of_devices? hnames h]
  rcases cases_of_devices? h with ⟨name, rfl, rfl⟩ | ⟨several, rfl⟩
  · exact congrArg ([·]) (deviceName_device name)
  · rw [if_neg (by omega)]
    have entries := readEntries_entryWords names
    have length := length_entryWords names
    generalize entryWords names = parts at entries length ⊢
    cases parts with
    | nil => simp at length; omega
    | cons part parts =>
      show readEntries (part :: (parts ++ ["\x7d"])).dropLast = names
      rw [← List.cons_append, List.dropLast_concat, entries]

theorem onlySpaces_of_devices?
    (hnames : ∀ name ∈ names, ∀ c ∈ name.toList, Text.isBlank c = false)
    (h : devices? names = some v) : OnlySpaces v.toList := by
  rcases cases_of_devices? h with ⟨name, rfl, rfl⟩ | ⟨-, rfl⟩
  · exact onlySpaces_of_visible (visible_device (hnames name (List.mem_singleton_self name)))
  · have opening : OnlySpaces "\x7b ".toList := by decide
    have closing : OnlySpaces " \x7d".toList := by decide
    rw [String.toList_append, String.toList_append]
    exact OnlySpaces.append (OnlySpaces.append opening (onlySpaces_entries hnames)) closing

/-- No value of devices looks like a number. -/
theorem exists_foreign_of_devices? (h : devices? names = some v) :
    ∃ c ∈ v.toList, ¬ Number.Numeric c := by
  rcases cases_of_devices? h with ⟨name, -, rfl⟩ | ⟨-, rfl⟩
  · refine ⟨'p', ?_, by unfold Number.Numeric; decide⟩
    rw [toList_device]
    exact List.mem_append_left _ (by decide)
  · refine ⟨'\x7b', ?_, by unfold Number.Numeric; decide⟩
    rw [String.toList_append, String.toList_append]
    exact List.mem_append_left _ (List.mem_append_left _ (by decide))

/-! ## Values and words -/

theorem numeric_of_holdsNumber (h : p.HoldsNumber) :
    ∀ c ∈ (Text.trim p.value).toList, Number.Numeric c :=
  (numeric_of_isNumber ((isNumber_iff _).mpr h.finite)).2

/-- A number is the only word of the text. -/
theorem words_of_holdsNumber (h : p.HoldsNumber) : Text.words p.value = [Text.trim p.value] := by
  have nonempty := (numeric_of_isNumber ((isNumber_iff _).mpr h.finite)).1
  refine Text.words_eq_singleton_iff.mpr ⟨rfl, ?_, fun c hc => ?_⟩
  · exact fun empty => nonempty (String.toList_eq_nil_iff.mpr empty)
  · exact (numeric_of_holdsNumber h c hc).isBlank_eq

theorem visible_words (s : String) :
    ∀ name ∈ Text.words s, ∀ c ∈ name.toList, Text.isBlank c = false :=
  fun _ hname _ => Text.isBlank_of_mem_words hname

variable {q : Parameter} {u : String}

theorem HoldsNumber.congr (kind : q.kind = p.kind) (words : Text.words q.value = Text.words p.value)
    (h : p.HoldsNumber) : q.HoldsNumber ∧ Text.trim q.value = Text.trim p.value := by
  rw [words_of_holdsNumber h] at words
  obtain ⟨same, -⟩ := Text.words_eq_singleton_iff.mp words
  exact ⟨⟨kind.trans h.active, same ▸ h.finite⟩, same⟩

theorem value?_congr (hp : p.kind = .equipment ∨ p.kind = .active) (kind : q.kind = p.kind)
    (words : Text.words q.value = Text.words p.value) : value? q = value? p := by
  by_cases number : p.HoldsNumber
  · obtain ⟨number', same⟩ := HoldsNumber.congr kind words number
    rw [value?_of_holdsNumber number, value?_of_holdsNumber number', same]
  · have number' : ¬ q.HoldsNumber := fun h => number (HoldsNumber.congr kind.symm words.symm h).1
    rw [value?_of_not_holdsNumber hp number, value?_of_not_holdsNumber (kind ▸ hp) number', words]

/-- It is seen from a value whether it is a number or refers to devices, and what the words are. -/
theorem words_of_value? (hp : p.kind = .equipment ∨ p.kind = .active) (h : value? p = some v) :
    (p.HoldsNumber ∧ (∀ c ∈ v.toList, Number.Numeric c) ∧ Text.words p.value = [v]) ∨
      (¬ p.HoldsNumber ∧ (∃ c ∈ v.toList, ¬ Number.Numeric c) ∧
        readDevices v = Text.words p.value) := by
  by_cases number : p.HoldsNumber
  · cases (value?_of_holdsNumber number).symm.trans h
    exact .inl ⟨number, numeric_of_holdsNumber number, words_of_holdsNumber number⟩
  · rw [value?_of_not_holdsNumber hp number] at h
    exact .inr ⟨number, exists_foreign_of_devices? h,
      readDevices_of_devices? (visible_words p.value) h⟩

theorem value?_eq_iff (hp : p.kind = .equipment ∨ p.kind = .active) (kind : q.kind = p.kind)
    (hv : value? p = some v) (hu : value? q = some u) :
    v = u ↔ Text.words p.value = Text.words q.value := by
  constructor
  · rintro rfl
    rcases words_of_value? hp hv with ⟨-, number, words⟩ | ⟨-, devices, words⟩ <;>
      rcases words_of_value? (kind ▸ hp) hu with ⟨-, number', words'⟩ | ⟨-, devices', words'⟩
    · rw [words, words']
    · obtain ⟨c, hc, foreign⟩ := devices'
      exact absurd (number c hc) foreign
    · obtain ⟨c, hc, foreign⟩ := devices
      exact absurd (number' c hc) foreign
    · rw [← words, words']
  · intro words
    rw [← value?_congr hp kind words.symm, hu] at hv
    cases hv
    rfl

theorem onlySpaces_of_value? (hp : p.kind = .equipment ∨ p.kind = .active)
    (h : value? p = some v) : OnlySpaces v.toList := by
  by_cases number : p.HoldsNumber
  · cases (value?_of_holdsNumber number).symm.trans h
    exact onlySpaces_of_visible fun c hc => (numeric_of_holdsNumber number c hc).isBlank_eq
  · rw [value?_of_not_holdsNumber hp number] at h
    exact onlySpaces_of_devices? (visible_words p.value) h

/-- A value is written for every parameter that is named, enabled and not blank. If it may be
devices, it has no blanks but spaces, and it tells the words of the parameter's text and nothing
else: the names of the devices are read back from it, a number is the only word itself, and no value
of devices is that of a number. -/
theorem values_readable (hp : p.kind = .equipment ∨ p.kind = .active) (written : p.Written) :
    ∃ v, Renders p v ∧ OnlySpaces v.toList ∧
      (¬ p.HoldsNumber → readDevices v = Text.words p.value) ∧
      (p.HoldsNumber → Text.words p.value = [v] ∧
        ∀ q u, q.kind = .equipment ∨ q.kind = .active → ¬ q.HoldsNumber → Renders q u → u ≠ v) ∧
      ∀ q u, q.kind = p.kind → Renders q u → (v = u ↔ Text.words p.value = Text.words q.value) := by
  obtain ⟨v, hv, renders⟩ := exists_renders written
  refine ⟨v, renders, onlySpaces_of_value? hp hv, ?_, ?_, ?_⟩
  · intro devices
    rcases words_of_value? hp hv with ⟨number, -⟩ | ⟨-, -, words⟩
    · exact absurd number devices
    · exact words
  · intro number
    rcases words_of_value? hp hv with ⟨-, numeric, words⟩ | ⟨devices, -⟩
    · refine ⟨words, fun q u hq devices hu => ?_⟩
      rintro rfl
      obtain ⟨-, hu⟩ := renders_iff.mp hu
      rcases words_of_value? hq hu with ⟨number', -⟩ | ⟨-, ⟨c, hc, foreign⟩, -⟩
      · exact devices number'
      · exact foreign (numeric c hc)
    · exact absurd number devices
  · intro q u kind hu
    exact value?_eq_iff hp kind hv (renders_iff.mp hu).2

/-- Devices with names that look like the code around them, on two lines. -/
def lookalikeDevices : Parameter :=
  .new .equipment "LS" "Levels" "\x7b ,\n\tprg.control_modules.a,\u00a0\x7d"

/-- The same names, with other blanks between them. -/
def respacedDevices : Parameter :=
  lookalikeDevices.setValue "\x7b , prg.control_modules.a, \x7d "

theorem values_readable_lookalikeDevices :
    ∃ v, Renders lookalikeDevices v ∧
      readDevices v = ["\x7b", ",", "prg.control_modules.a,", "\x7d"] ∧
      Renders respacedDevices v := by
  have written : lookalikeDevices.Written := ⟨by decide, rfl, ',', by decide, rfl⟩
  have written' : respacedDevices.Written := ⟨by decide, rfl, ',', by decide, rfl⟩
  have devices : ¬ lookalikeDevices.HoldsNumber := fun h => nomatch h.active
  have words : Text.words lookalikeDevices.value =
      ["\x7b", ",", "prg.control_modules.a,", "\x7d"] := by decide +kernel
  have words' : Text.words respacedDevices.value =
      ["\x7b", ",", "prg.control_modules.a,", "\x7d"] := by decide +kernel
  obtain ⟨v, hv, -, names, -, same⟩ := values_readable (.inl rfl) written
  obtain ⟨u, hu, -⟩ := values_readable (.inl rfl) written'
  have equal : v = u := (same respacedDevices u rfl hu).mpr (words.trans words'.symm)
  exact ⟨v, hv, (names devices).trans words, equal ▸ hu⟩

end Lua

end Plant
