import Plant.Lua.Assignment
import Plant.Mode

/-!
# Operation tables

The tables for the modes of an object: the numbers of the operations, the numbers of their steps,
and a table of properties for each operation that has any. Operations without a name are left out
of the first two.
-/
namespace Plant.Lua

/-- An entry that gives a name a number. -/
def numbered (depth : Nat) (name : String) (number : UInt32) : Line :=
  ⟨depth, name ++ " = " ++ Number.decimal number.toNat ++ ","⟩

/-- The name of an operation as a key. -/
def operationKey (o : Operation) : String := Text.upper o.luaName

/-- The modes whose operation has a name. -/
def namedModes (modes : List Mode) : List Mode := modes.filter (!·.operation.isPlaceholder)

/-! ## Numbers of operations -/

/-- The table of the numbers of the operations. -/
def operationTable? (object : String) (modes : List Mode) : Option (Table Line) :=
  Table.ofEntries? ⟨0, object ++ ".operations = \t\t--Операции."⟩ 1 "\x7d"
    ((namedModes modes).map fun m => numbered 1 (operationKey m.operation) m.number)

/-- The lines of the table of the numbers of the operations. -/
def operationLines (object : String) (modes : List Mode) : List Line :=
  (operationTable? object modes).elim [] Table.flatLines

/-- The text of the table of the numbers of the operations. -/
def operations (object indent : String) (modes : List Mode) : String :=
  write indent (operationLines object modes)

/-! ## Numbers of steps -/

/-- The table of the numbers of a mode's steps. -/
def stepTable? (m : Mode) : Option (Table Line) :=
  Table.ofEntries? ⟨1, operationKey m.operation ++ " ="⟩ 2 "\x7d,"
    ((m.steps.filter (!·.name.isEmpty)).map fun s => numbered 2 s.luaName s.number)

/-- The table of the tables of steps. -/
def stepTables? (object : String) (modes : List Mode) : Option (Table (Table Line)) :=
  Table.ofEntries? ⟨0, object ++ ".steps = \t\t--Шаги операций."⟩ 1 "\x7d"
    ((namedModes modes).filterMap stepTable?)

/-- The lines of the table of the tables of steps. -/
def stepLines (object : String) (modes : List Mode) : List Line :=
  (stepTables? object modes).elim [] (Table.lines Table.flatLines)

/-- The text of the table of the tables of steps. -/
def steps (object indent : String) (modes : List Mode) : String :=
  write indent (stepLines object modes)

/-! ## Properties -/

/-- Tells whether a property may be written: its value is still to be looked at for blanks. -/
def isPresent (p : Parameter) : Bool := !(p.isEmpty || p.value.isEmpty || p.disabled)

/-- The table of a mode's properties. -/
def propertyTable? (object : String) (m : Mode) : Option (Table Line) :=
  Table.ofEntries? ⟨0, object ++ "." ++ m.operation.luaName ++ " ="⟩ 1 "\x7d"
    (((m.operation.properties.filter isPresent).filterMap assignment?).map fun code =>
      ⟨1, code ++ ","⟩)

/-- The lines of the tables of properties. -/
def propertyLines (object : String) (modes : List Mode) : List Line :=
  (modes.filterMap (propertyTable? object)).flatMap Table.flatLines

/-- The text of the tables of properties. -/
def properties (object indent : String) (modes : List Mode) : String :=
  write indent (propertyLines object modes)

end Plant.Lua
