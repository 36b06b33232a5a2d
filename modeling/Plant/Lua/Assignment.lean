import Plant.Lua.Line
import Plant.Number.Numeral
import Plant.Parameter

/-!
# Assignments

What is written for a parameter: its name, an equals sign and its value. Devices are written as
entries of the table of control modules, several of them as a table. An active parameter with a
finite number is written as that number. A parameter that is disabled, has no name or has a blank
value is not written.
-/
namespace Plant.Lua

/-- The reference to a device. -/
def device (name : String) : String := "prg.control_modules." ++ name

/-- The reference to one device or the table of references to several. -/
def devices? : List String → Option String
  | [] => none
  | [name] => some (device name)
  | names => some ("\x7b " ++ ", ".intercalate (names.map device) ++ " \x7d")

/-- Tells whether the text, but for blanks around it, is a numeral with a finite value. -/
def isNumber (text : String) : Bool := Number.isFiniteNumeral (Text.trim text)

/-- The value of a parameter in generated code. -/
def value? (p : Parameter) : Option String :=
  match p.kind with
  | .equipment => devices? (Text.words p.value)
  | .active =>
    if isNumber p.value then some (Text.trim p.value) else devices? (Text.words p.value)
  | .activeBool => some p.value
  | .mainAggregate => some p.value

/-- The assignment of a parameter. -/
def assignment? (p : Parameter) : Option String :=
  if p.isEmpty || p.disabled || p.value.isEmpty then none
  else (value? p).map fun value => p.luaName ++ " = " ++ value

/-- The assignment of a parameter behind an indentation; empty if there is none. -/
def assignmentText (indent : String) (p : Parameter) : String :=
  (assignment? p).elim "" (indent ++ ·)

/-- The lines for the parameters of an object itself: each assigns to a field of the object. -/
def fieldLines (object : String) (ps : List Parameter) : List Line :=
  (ps.filterMap assignment?).map fun code => ⟨0, object ++ "." ++ code⟩

/-- The text for the parameters of an object itself. -/
def fields (object : String) (ps : List Parameter) : String := write "" (fieldLines object ps)

end Plant.Lua
