import Mathlib.Data.List.Forall2
import Plant.Proofs.Lua.Assignment

/-!
# Reading tables

A reader for texts made of tables. It goes by position, not by what a line looks like: behind a
given number of characters comes the name of a table, then the line of its brace, then the lines of
its entries. A line that cannot be read as an entry is the last one of its table. So neither a name
that looks like a brace nor an indentation that is empty can mislead it.

Results:
1. `cutLast_append`: an entry is cut at the equals sign that was put between its name and its value,
   whatever the name contains.
2. `scan_tables`: a text of tables is read as their names and entries.
-/
namespace Plant.Lua

/-! ## Entries -/

/-- Cuts a text at its last equals sign between spaces. -/
def cutLast : List Char → Option (List Char × List Char)
  | [] => none
  | c :: cs =>
    match cutLast cs with
    | some (before, after) => some (c :: before, after)
    | none => if [' ', '=', ' '].isPrefixOf (c :: cs) then some ([], cs.drop 2) else none

/-- Reads a line as an entry: an indentation, a name, an equals sign, a value and a comma. -/
def entryOf? (indentation : Nat) (line : List Char) : Option (String × String) :=
  (cutLast (line.drop indentation).dropLast).map fun (name, value) =>
    (String.ofList name, String.ofList value)

theorem cutLast_eq_none {cs : List Char} (h : cs.IsChain fun c d => c = ' ' → d ≠ '=') :
    cutLast cs = none := by
  induction cs with
  | nil => rfl
  | cons c cs ih =>
    have later := List.isChain_cons.mp h
    rw [cutLast, ih later.2]
    refine if_neg fun cut => ?_
    obtain ⟨rest, hrest⟩ := List.isPrefixOf_iff_prefix.mp cut
    obtain ⟨rfl, rfl⟩ := List.cons.inj hrest
    exact later.1 '=' rfl rfl rfl

theorem cutLast_append (name : List Char) {value : List Char} (h : Inert value) :
    cutLast (name ++ (" = ".toList ++ value)) = some (name, value) := by
  induction name with
  | nil =>
    -- to cut further back there would have to be a space before an equals sign in the value
    have rest : cutLast ('=' :: ' ' :: value) = none :=
      cutLast_eq_none (List.isChain_cons_cons.mpr ⟨by decide, h.chain⟩)
    show cutLast (' ' :: '=' :: ' ' :: value) = _
    rw [cutLast, rest]
    rfl
  | cons c name ih => rw [List.cons_append, cutLast, ih]

theorem entryOf?_append (indentation : List Char) (name : List Char) {value : List Char}
    (h : Inert value) :
    entryOf? indentation.length (indentation ++ (name ++ (" = ".toList ++ value) ++ [','])) =
      some (String.ofList name, String.ofList value) := by
  rw [entryOf?, List.drop_left, List.dropLast_concat, cutLast_append name h]
  rfl

/-- A closing line is no entry. -/
theorem entryOf?_closing (indentation : List Char) {closing : String}
    (h : closing = "\x7d" ∨ closing = "\x7d,") :
    entryOf? indentation.length (indentation ++ closing.toList) = none := by
  rw [entryOf?, List.drop_left]
  rcases h with rfl | rfl <;> decide

/-! ## Tables -/

/-- Where the reader is in a table. -/
inductive Position where
  /-- Before or in the line with the name, with so many characters still to be passed over. -/
  | header (skip : Nat) (read : List Char)
  /-- In the line of the brace. -/
  | brace (name : List Char)
  /-- In a line behind the brace. -/
  | inside (name : List Char) (entries : List (String × String)) (read : List Char)

/-- Reads tables. The name of a table is what follows `front` characters up to the end of the line. -/
def scan (front indentation : Nat) :
    Position → List Char → List (String × List (String × String))
  | _, [] => []
  | .header (n + 1) read, _ :: cs => scan front indentation (.header n read) cs
  | .header 0 read, c :: cs =>
    if c = '\n' then scan front indentation (.brace read) cs
    else scan front indentation (.header 0 (read ++ [c])) cs
  | .brace name, c :: cs =>
    if c = '\n' then scan front indentation (.inside name [] []) cs
    else scan front indentation (.brace name) cs
  | .inside name entries read, c :: cs =>
    if c = '\n' then
      match entryOf? indentation read with
      | some e => scan front indentation (.inside name (entries ++ [e]) []) cs
      | none => (String.ofList name, entries) :: scan front indentation (.header front []) cs
    else scan front indentation (.inside name entries (read ++ [c])) cs

variable {front indentation : Nat} {name read cs line : List Char}
  {es : List (String × String)}

namespace ScanLemmas

/-! ### Lines -/

theorem scan_skip (n : Nat) (before : List Char) :
    scan front indentation (.header (n + before.length) read) (before ++ cs) =
      scan front indentation (.header n read) cs := by
  induction before with
  | nil => rfl
  | cons c before ih => exact ih

theorem scan_front (before : List Char) :
    scan front indentation (.header before.length read) (before ++ cs) =
      scan front indentation (.header 0 read) cs := by
  rw [← scan_skip 0 before, Nat.zero_add]

theorem scan_header (h : '\n' ∉ line) :
    scan front indentation (.header 0 read) (line ++ '\n' :: cs) =
      scan front indentation (.brace (read ++ line)) cs := by
  induction line generalizing read with
  | nil =>
    rw [List.nil_append, scan, if_pos rfl, List.append_nil]
  | cons c line ih =>
    rw [List.mem_cons, not_or] at h
    rw [List.cons_append, scan, if_neg (Ne.symm h.1), ih h.2, List.append_assoc]
    rfl

theorem scan_brace (h : '\n' ∉ line) :
    scan front indentation (.brace name) (line ++ '\n' :: cs) =
      scan front indentation (.inside name [] []) cs := by
  induction line with
  | nil => rw [List.nil_append, scan, if_pos rfl]
  | cons c line ih =>
    rw [List.mem_cons, not_or] at h
    rw [List.cons_append, scan, if_neg (Ne.symm h.1), ih h.2]

theorem scan_inside (h : '\n' ∉ line) :
    scan front indentation (.inside name es read) (line ++ cs) =
      scan front indentation (.inside name es (read ++ line)) cs := by
  induction line generalizing read with
  | nil => rw [List.nil_append, List.append_nil]
  | cons c line ih =>
    rw [List.mem_cons, not_or] at h
    rw [List.cons_append, scan, if_neg (Ne.symm h.1), ih h.2, List.append_assoc]
    rfl

theorem scan_entry {e : String × String} (h : '\n' ∉ line)
    (he : entryOf? indentation line = some e) :
    scan front indentation (.inside name es []) (line ++ '\n' :: cs) =
      scan front indentation (.inside name (es ++ [e]) []) cs := by
  rw [scan_inside h, List.nil_append, scan, if_pos rfl, he]

theorem scan_closing (h : '\n' ∉ line) (he : entryOf? indentation line = none) :
    scan front indentation (.inside name es []) (line ++ '\n' :: cs) =
      (String.ofList name, es) :: scan front indentation (.header front []) cs := by
  rw [scan_inside h, List.nil_append, scan, if_pos rfl, he]

end ScanLemmas

open ScanLemmas

/-! ## Tables as they are written -/

/-- The characters of a line, without the line feed at its end. -/
def Line.chars (indent : String) (l : Line) : List Char :=
  (repeated indent l.depth ++ l.content).toList

/-- The line of an entry. -/
def entryLine (depth : Nat) (e : String × String) : Line := ⟨depth, e.1 ++ " = " ++ e.2 ++ ","⟩

/-- A name and a value that can be told apart in the line of an entry. -/
structure Readable (e : String × String) : Prop where
  name : '\n' ∉ e.1.toList
  value : Inert e.2.toList

/-- The line ends with a name, which stands behind `front` characters. -/
structure Headed (indent : String) (front : Nat) (l : Line) (name : String) : Prop where
  chars : ∃ before : List Char, before.length = front ∧ l.chars indent = before ++ name.toList
  name : '\n' ∉ name.toList

/-- The table shows a name, behind `front` characters, and entries, which are `depth` deep. -/
structure Shows (indent : String) (front depth : Nat) (t : Table Line)
    (r : String × List (String × String)) : Prop where
  header : Headed indent front t.header r.1
  depth_eq : t.depth = depth
  closing : t.closing = "\x7d" ∨ t.closing = "\x7d,"
  entries : t.entries = r.2.map (entryLine depth)
  readable : ∀ e ∈ r.2, Readable e

theorem write_cons_append (indent : String) (l : Line) (ls : List Line) (cs : List Char) :
    (write indent (l :: ls)).toList ++ cs =
      l.chars indent ++ '\n' :: ((write indent ls).toList ++ cs) := by
  rw [write_cons, Line.text, Line.chars]
  simp [String.toList_append]

theorem not_mem_repeated {indent : String} (h : '\n' ∉ indent.toList) (n : Nat) :
    '\n' ∉ (repeated indent n).toList := by
  induction n with
  | zero => simp [repeated_zero]
  | succ n ih => simp [repeated_succ, h, ih]

theorem not_mem_chars {indent content : String} (hi : '\n' ∉ indent.toList)
    (hc : '\n' ∉ content.toList) (depth : Nat) : '\n' ∉ Line.chars indent ⟨depth, content⟩ := by
  rw [Line.chars, String.toList_append, List.mem_append, not_or]
  exact ⟨not_mem_repeated hi depth, hc⟩

section
variable {indent : String} {depth : Nat}

theorem not_mem_entryLine {e : String × String} (hi : '\n' ∉ indent.toList) (he : Readable e) :
    '\n' ∉ (entryLine depth e).chars indent := by
  refine not_mem_chars hi ?_ depth
  have name := he.name
  have value := he.value.line
  simp [String.toList_append, name, value]

theorem entryOf?_entryLine {e : String × String} (he : Readable e) :
    entryOf? (repeated indent depth).length ((entryLine depth e).chars indent) = some e := by
  have read := entryOf?_append (repeated indent depth).toList e.1.toList he.value
  rw [String.ofList_toList, String.ofList_toList, String.length_toList] at read
  rw [← read, entryLine, Line.chars]
  simp [String.toList_append]

theorem headed_zero (before : String) {name : String} (h : '\n' ∉ name.toList) :
    Headed indent before.length ⟨0, before ++ name⟩ name := by
  refine ⟨⟨before.toList, String.length_toList, ?_⟩, h⟩
  rw [Line.chars, repeated_zero, String.empty_append, String.toList_append]

theorem headed_one {name : String} (h : '\n' ∉ name.toList) :
    Headed indent indent.length ⟨1, name⟩ name := by
  refine ⟨⟨indent.toList, String.length_toList, ?_⟩, h⟩
  rw [Line.chars, repeated_succ, repeated_zero, String.append_empty, String.toList_append]

/-- Entry by entry the reader collects what was written. -/
theorem scan_entries (hi : '\n' ∉ indent.toList) (new : List (String × String))
    (hnew : ∀ e ∈ new, Readable e) :
    scan front (repeated indent depth).length (.inside name es [])
        ((write indent (new.map (entryLine depth))).toList ++ cs) =
      scan front (repeated indent depth).length (.inside name (es ++ new) []) cs := by
  induction new generalizing es with
  | nil =>
    rw [List.map_nil, write_nil, List.append_nil]
    rfl
  | cons e new ih =>
    rw [List.forall_mem_cons] at hnew
    rw [List.map_cons, write_cons_append,
      scan_entry (not_mem_entryLine hi hnew.1) (entryOf?_entryLine hnew.1), ih hnew.2,
      List.append_assoc]
    rfl

theorem scan_flatLines {t : Table Line} {r : String × List (String × String)}
    (hi : '\n' ∉ indent.toList) (h : Shows indent front depth t r) :
    scan front (repeated indent depth).length (.header front [])
        ((write indent t.flatLines).toList ++ cs) =
      r :: scan front (repeated indent depth).length (.header front []) cs := by
  obtain ⟨before, rfl, header⟩ := h.header.chars
  have brace : '\n' ∉ Line.chars indent ⟨t.depth, "\x7b"⟩ := not_mem_chars hi (by decide) _
  have closing : '\n' ∉ Line.chars indent ⟨t.depth, t.closing⟩ :=
    not_mem_chars hi (by rcases h.closing with h | h <;> rw [h] <;> decide) _
  have last : entryOf? (repeated indent depth).length (Line.chars indent ⟨t.depth, t.closing⟩) =
      none := by
    rw [Line.chars, h.depth_eq, String.toList_append, ← String.length_toList]
    exact entryOf?_closing _ h.closing
  rw [Table.flatLines, Table.lines, List.flatMap_singleton']
  -- the name, which stands behind the front
  rw [write_cons_append, header, List.append_assoc, scan_front, scan_header h.header.name]
  -- the brace and the entries
  rw [write_cons_append, scan_brace brace, write_append, String.toList_append, List.append_assoc,
    h.entries, scan_entries hi _ h.readable]
  -- the closing line, which cannot be read as an entry
  rw [write_cons_append, scan_closing closing last, write_nil]
  simp

/-- A text of tables is read as the names and the entries that the tables show. -/
theorem scan_tables {ts : List (Table Line)} {rs : List (String × List (String × String))}
    (hi : '\n' ∉ indent.toList) (h : List.Forall₂ (Shows indent front depth) ts rs) :
    scan front (repeated indent depth).length (.header front [])
        ((write indent (ts.flatMap Table.flatLines)).toList ++ cs) =
      rs ++ scan front (repeated indent depth).length (.header front []) cs := by
  induction h with
  | nil =>
    rw [List.flatMap_nil, write_nil]
    rfl
  | cons shows rest ih =>
    rw [List.flatMap_cons, write_append, String.toList_append, List.append_assoc,
      scan_flatLines hi shows, ih, List.cons_append]

theorem scan_text {ts : List (Table Line)} {rs : List (String × List (String × String))}
    (hi : '\n' ∉ indent.toList) (h : List.Forall₂ (Shows indent front depth) ts rs) :
    scan front (repeated indent depth).length (.header front [])
      (write indent (ts.flatMap Table.flatLines)).toList = rs := by
  rw [← List.append_nil (write _ _).toList, scan_tables hi h, scan, List.append_nil]

/-- A line that stands where a name is expected, with nothing behind it, is passed over. -/
theorem scan_last {l : Line} {content : String} (h : Headed indent front l content) :
    scan front indentation (.header front []) (write indent [l]).toList = [] := by
  obtain ⟨before, rfl, chars⟩ := h.chars
  rw [← List.append_nil (write indent [l]).toList, write_cons_append, chars, List.append_assoc,
    scan_front, scan_header h.name, write_nil]
  rfl

/-! ## Families of tables -/

/-- Tables that are made of lists of entries, where there are any, show these entries. -/
theorem forall₂_shows {α : Type} {header : α → Line} {name : α → String} {closing : String}
    {items : α → List (String × String)} {as : List α}
    (hclosing : closing = "\x7d" ∨ closing = "\x7d,")
    (hheader : ∀ a ∈ as, Headed indent front (header a) (name a))
    (hitems : ∀ a ∈ as, ∀ e ∈ items a, Readable e) :
    List.Forall₂ (Shows indent front depth)
      (as.filterMap fun a =>
        Table.ofEntries? (header a) depth closing ((items a).map (entryLine depth)))
      ((as.filter fun a => items a ≠ []).map fun a => (name a, items a)) := by
  induction as with
  | nil => exact .nil
  | cons a as ih =>
    rw [List.forall_mem_cons] at hheader hitems
    have rest := ih hheader.2 hitems.2
    by_cases empty : items a = []
    · rw [List.filterMap_cons_none (by rw [empty]; rfl), List.filter_cons_of_neg (by simp [empty])]
      exact rest
    · have lines : (items a).map (entryLine depth) ≠ [] := by simpa using empty
      simp only [List.filterMap_cons, Table.ofEntries?_of_ne_nil _ _ _ lines]
      rw [List.filter_cons_of_pos (by simpa using empty), List.map_cons]
      exact .cons ⟨hheader.1, rfl, hclosing, rfl, hitems.1⟩ rest

end

end Plant.Lua
