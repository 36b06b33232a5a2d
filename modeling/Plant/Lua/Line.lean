/-!
# Lines of generated code

Generated code is a list of lines, each with its depth; the indentation is put in front of a line
as many times as it is deep. So a choice of indentation changes nothing else.
-/
namespace Plant.Lua

/-- A line of code and how deep it is nested. -/
structure Line where
  depth : Nat
  content : String
deriving DecidableEq, Repr

/-- The text repeated `n` times. -/
def repeated (s : String) (n : Nat) : String := String.join (List.replicate n s)

/-- The line as text. -/
def Line.text (indent : String) (l : Line) : String := repeated indent l.depth ++ l.content ++ "\n"

/-- The lines as text. -/
def write (indent : String) (ls : List Line) : String := String.join (ls.map (Line.text indent))

theorem repeated_zero (s : String) : repeated s 0 = "" := by
  rw [repeated, List.replicate_zero, String.join_nil]

theorem repeated_succ (s : String) (n : Nat) : repeated s (n + 1) = s ++ repeated s n := by
  rw [repeated, List.replicate_succ, String.join_cons, repeated]

theorem write_nil (indent : String) : write indent [] = "" := by
  rw [write, List.map_nil, String.join_nil]

theorem write_cons (indent : String) (l : Line) (ls : List Line) :
    write indent (l :: ls) = l.text indent ++ write indent ls := by
  rw [write, List.map_cons, String.join_cons, write]

theorem write_append (indent : String) (ls ms : List Line) :
    write indent (ls ++ ms) = write indent ls ++ write indent ms := by
  rw [write, List.map_append, String.join_append, write, write]

/-- Every line leaves a trace in the text. -/
theorem write_eq_empty_iff (indent : String) (ls : List Line) : write indent ls = "" ↔ ls = [] := by
  cases ls with
  | nil => exact iff_of_true (write_nil indent) rfl
  | cons l ls => simp [write_cons, Line.text, String.append_eq_empty_iff]

/-! ## Tables -/

/-- A table: a header line, its entries between braces, which are `depth` deep, and what the last
line ends with. A table without entries is not written, so there is none. -/
structure Table (α : Type) where
  header : Line
  depth : Nat
  closing : String
  entries : List α
  entries_ne_nil : entries ≠ []

namespace Table

variable {α : Type}

/-- The table of the entries, if there are any. -/
def ofEntries? (header : Line) (depth : Nat) (closing : String) (entries : List α) :
    Option (Table α) :=
  if h : entries ≠ [] then some ⟨header, depth, closing, entries, h⟩ else none

theorem ofEntries?_of_ne_nil (header : Line) (depth : Nat) (closing : String) {entries : List α}
    (h : entries ≠ []) :
    ofEntries? header depth closing entries = some ⟨header, depth, closing, entries, h⟩ := dif_pos h

theorem ofEntries?_eq_none_iff {header : Line} {depth : Nat} {closing : String} {entries : List α} :
    ofEntries? header depth closing entries = none ↔ entries = [] := by
  rw [ofEntries?, dite_eq_right_iff]
  simp

/-- The lines of a table whose entries have lines. -/
def lines (entry : α → List Line) (t : Table α) : List Line :=
  t.header :: ⟨t.depth, "\x7b"⟩ :: (t.entries.flatMap entry ++ [⟨t.depth, t.closing⟩])

/-- The lines of a table of lines. -/
def flatLines (t : Table Line) : List Line := t.lines fun l => [l]

end Table

end Plant.Lua
