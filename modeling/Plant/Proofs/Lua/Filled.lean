import Plant.Lua.ObjectInfo
import Plant.Lua.Operations
import Plant.Proofs.Lua.Assignment

/-!
# Tables with entries

Every table that is opened in generated code is closed again and has an entry, at every depth. The
names in the code do not matter: no line with a name in it can be taken for the line of a brace,
because an equals sign or a dot stands beside the name.

Results:
1. `filled_operationLines`, `filled_stepLines`, `filled_propertyLines`, `filled_fieldLines`,
   `filled_infoLines`: the lines that are written for modes, parameters and objects.
2. `devices_of_value?`: a value that opens a table lists two devices at least.
-/
namespace Plant.Lua

/-- The line neither opens nor closes a table. -/
def Line.Plain (l : Line) : Prop := l.content ∉ ["\x7b", "\x7d", "\x7d,"]

/-- Plain lines and tables: a plain line as the header, a brace, entries, which are such lines again
and are never missing, and a brace. -/
inductive Filled : List Line → Prop
  | nil : Filled []
  | plain {l : Line} {ls : List Line} : l.Plain → Filled ls → Filled (l :: ls)
  | table {header : Line} {depth : Nat} {closing : String} {entries ls : List Line} :
      header.Plain → closing ∈ ["\x7d", "\x7d,"] → entries ≠ [] → Filled entries → Filled ls →
      Filled (header :: ⟨depth, "\x7b"⟩ :: (entries ++ ⟨depth, closing⟩ :: ls))

variable {object : String} {header : Line} {depth : Nat} {closing : String} {ls ms : List Line}

namespace FilledLemmas

/-! ## Lines and tables -/

theorem plain_of_mem {l : Line} {c : Char} (hc : c ∈ l.content.toList)
    (other : c ∉ ['\x7b', '\x7d', ',']) : l.Plain := by
  intro brace
  simp only [List.mem_cons, List.not_mem_nil, or_false] at brace
  rcases brace with brace | brace | brace
  all_goals
    rw [brace] at hc
    exact other (by revert hc; simp +contextual)

theorem plain_of_equals {l : Line} (h : '=' ∈ l.content.toList) : l.Plain :=
  plain_of_mem h (by decide)

theorem plain_of_dot {l : Line} (h : '.' ∈ l.content.toList) : l.Plain :=
  plain_of_mem h (by decide)

theorem Filled.append (h : Filled ls) (h' : Filled ms) : Filled (ls ++ ms) := by
  induction h with
  | nil => exact h'
  | plain hl _ ih => exact .plain hl ih
  | table hheader hclosing some entries _ _ ih =>
    rw [List.cons_append, List.cons_append, List.append_assoc]
    exact .table hheader hclosing some entries ih

theorem filled_of_plain (h : ∀ l ∈ ls, l.Plain) : Filled ls := by
  induction ls with
  | nil => exact .nil
  | cons l ls ih =>
    rw [List.forall_mem_cons] at h
    exact .plain h.1 (ih h.2)

theorem filled_flatMap {α : Type} {f : α → List Line} {as : List α}
    (h : ∀ a ∈ as, Filled (f a)) : Filled (as.flatMap f) := by
  induction as with
  | nil => exact .nil
  | cons a as ih =>
    rw [List.forall_mem_cons] at h
    exact Filled.append h.1 (ih h.2)

/-- A table is filled if its entries are and each has a line. -/
theorem filled_lines {α : Type} {f : α → List Line} {t : Table α} (hheader : t.header.Plain)
    (hclosing : t.closing ∈ ["\x7d", "\x7d,"]) (h : ∀ a ∈ t.entries, Filled (f a))
    (some : ∀ a ∈ t.entries, f a ≠ []) : Filled (t.lines f) := by
  refine .table hheader hclosing ?_ (filled_flatMap h) .nil
  obtain ⟨a, ha⟩ := List.exists_mem_of_ne_nil _ t.entries_ne_nil
  exact fun none => some a ha (List.flatMap_eq_nil_iff.mp none a ha)

theorem flatLines_ne_nil (t : Table Line) : t.flatLines ≠ [] := List.cons_ne_nil _ _

/-- The lines of a table of lines, if there is one. -/
theorem filled_flatLines {entries : List Line} (hheader : header.Plain)
    (hclosing : closing ∈ ["\x7d", "\x7d,"]) (h : ∀ l ∈ entries, l.Plain) :
    ∀ t ∈ Table.ofEntries? header depth closing entries, Filled t.flatLines := by
  intro t ht
  obtain ⟨_, ht⟩ := Option.dite_none_right_eq_some.mp ht
  cases ht
  refine filled_lines hheader hclosing (fun l hl => ?_) fun _ _ => List.cons_ne_nil _ _
  exact .plain (h l hl) .nil

theorem filled_elim {α : Type} {f : α → List Line} {o : Option α} (h : ∀ a ∈ o, Filled (f a)) :
    Filled (o.elim [] f) := by
  cases o with
  | none => exact .nil
  | some a => exact h a rfl

theorem filled_filterMap {α β : Type} {f : β → List Line} {g : α → Option β} {as : List α}
    (h : ∀ a ∈ as, ∀ b ∈ g a, Filled (f b)) : Filled ((as.filterMap g).flatMap f) := by
  refine filled_flatMap fun b hb => ?_
  obtain ⟨a, ha, hab⟩ := List.mem_filterMap.mp hb
  exact h a ha b hab

/-! ## Values -/

theorem eq_of_assignment? {p : Parameter} {code : String} (h : assignment? p = some code) :
    ∃ v, value? p = some v ∧ code = p.luaName ++ " = " ++ v := by
  obtain ⟨-, h⟩ := Option.ite_none_left_eq_some.mp h
  obtain ⟨v, hv, rfl⟩ := Option.map_eq_some_iff.mp h
  exact ⟨v, hv, rfl⟩

theorem devices_of_devices? {names : List String} {v : String} (h : devices? names = some v)
    (opens : v.toList.head? = some '\x7b') :
    2 ≤ names.length ∧ v = "\x7b " ++ ", ".intercalate (names.map device) ++ " \x7d" := by
  unfold devices? at h
  split at h
  case h_1 => cases h
  case h_2 name =>
    cases h
    have head : "prg.control_modules.".toList.head? = some 'p' := by decide
    unfold device at opens
    rw [String.toList_append, List.head?_append, head] at opens
    simp at opens
  case h_3 none one =>
    cases h
    refine ⟨?_, rfl⟩
    match names with
    | [] => exact absurd rfl none
    | [name] => exact absurd rfl (one name)
    | _ :: _ :: _ => simp

end FilledLemmas

open FilledLemmas

/-- A value opens a table only for devices, and there are two of them at least. -/
theorem devices_of_value? {p : Parameter} {v : String} (h : value? p = some v)
    (opens : v.toList.head? = some '\x7b') :
    2 ≤ (Text.words p.value).length ∧
      v = "\x7b " ++ ", ".intercalate ((Text.words p.value).map device) ++ " \x7d" := by
  unfold value? at h
  split at h
  case h_1 => exact devices_of_devices? h opens
  case h_2 =>
    split at h
    case isTrue number =>
      cases h
      have numeric := (ValueLemmas.numeric_of_isNumber number).2 _ (List.mem_of_head? opens)
      rcases numeric with digit | sign
      · cases digit
      · exact absurd sign (by decide)
    case isFalse => exact devices_of_devices? h opens
  case h_3 kind | h_4 kind =>
    cases h
    rcases p.value_of_isBool (by rw [kind]; rfl) with value | value
    all_goals
      rw [value] at opens
      cases opens

/-! ## Modes -/

theorem filled_operationLines (object : String) (modes : List Mode) :
    Filled (operationLines object modes) := by
  refine filled_elim (filled_flatLines (plain_of_equals ?_) (by simp) ?_)
  · simp [String.toList_append]
  · intro l hl
    obtain ⟨m, -, rfl⟩ := List.mem_map.mp hl
    exact plain_of_equals (by simp [numbered, String.toList_append])

theorem filled_stepTable? {m : Mode} : ∀ t ∈ stepTable? m, Filled t.flatLines := by
  refine filled_flatLines (plain_of_equals ?_) (by simp) ?_
  · simp [String.toList_append]
  · intro l hl
    obtain ⟨s, -, rfl⟩ := List.mem_map.mp hl
    exact plain_of_equals (by simp [numbered, String.toList_append])

theorem filled_stepLines (object : String) (modes : List Mode) :
    Filled (stepLines object modes) := by
  refine filled_elim fun tables h => ?_
  obtain ⟨_, h⟩ := Option.dite_none_right_eq_some.mp h
  cases h
  refine filled_lines (plain_of_equals ?_) (by simp) ?_ ?_
  · simp [String.toList_append]
  · intro t ht
    obtain ⟨m, -, hmt⟩ := List.mem_filterMap.mp ht
    exact filled_stepTable? t hmt
  · exact fun t _ => flatLines_ne_nil t

theorem filled_propertyLines (object : String) (modes : List Mode) :
    Filled (propertyLines object modes) := by
  refine filled_filterMap fun m _ => ?_
  refine filled_flatLines (plain_of_equals ?_) (by simp) ?_
  · simp [String.toList_append]
  · intro l hl
    obtain ⟨code, hcode, rfl⟩ := List.mem_map.mp hl
    obtain ⟨p, -, hp⟩ := List.mem_filterMap.mp hcode
    obtain ⟨v, -, rfl⟩ := eq_of_assignment? hp
    exact plain_of_equals (by simp [String.toList_append])

/-! ## Parameters and objects -/

theorem filled_fieldLines (object : String) (ps : List Parameter) :
    Filled (fieldLines object ps) := by
  refine filled_of_plain fun l hl => ?_
  obtain ⟨code, -, rfl⟩ := List.mem_map.mp hl
  exact plain_of_dot (by simp [String.toList_append])

theorem filled_resetTable? {entries : List String} (h : ∀ s ∈ entries, '.' ∈ s.toList) :
    Filled ((resetTable? object entries).elim [] Table.flatLines) := by
  refine filled_elim (filled_flatLines (plain_of_equals ?_) (by simp) ?_)
  · simp [String.toList_append]
  · intro l hl
    obtain ⟨s, hs, rfl⟩ := List.mem_map.mp hl
    exact plain_of_dot (h s hs)

theorem filled_unitLines (object : String) (master : Option Registered) :
    Filled (unitLines object master) := by
  refine Filled.append (filled_of_plain fun l hl => ?_) (filled_resetTable? ?_)
  · obtain ⟨r, -, rfl⟩ := Option.map_eq_some_iff.mp (Option.mem_toList.mp hl)
    exact plain_of_equals (by simp [masterLine, String.toList_append])
  · simp [unitReset, separated, String.toList_append]

theorem filled_groupTable? {registry : Registry} {g : Group} :
    ∀ t ∈ groupTable? object registry g, Filled t.flatLines := by
  intro t ht
  obtain ⟨-, ht⟩ := Option.ite_none_left_eq_some.mp ht
  refine filled_flatLines (plain_of_equals ?_) (by simp) ?_ t ht
  · simp [String.toList_append]
  · intro l hl
    obtain ⟨s, hs, rfl⟩ := List.mem_map.mp hl
    obtain ⟨name, hname, rfl⟩ := List.mem_map.mp hs
    obtain ⟨word, -, hword⟩ := List.mem_filterMap.mp hname
    obtain ⟨r, -, rfl⟩ := Option.map_eq_some_iff.mp hword
    exact plain_of_dot (by simp [Registered.qualifiedName, String.toList_append])

theorem filled_infoLines (object : String) (registry : Registry) (o : Object) :
    Filled (infoLines object registry o) := by
  refine Filled.append ?_ (Filled.append (filled_filterMap fun g _ => filled_groupTable?) ?_)
  · split
    · exact filled_unitLines object registry.processCell
    · exact .nil
  · split
    · exact filled_resetTable? (by simp [terminated, lineReset, String.toList_append])
    · exact .nil

end Plant.Lua
