import Plant.Lua.Line
import Plant.Object.Basic

/-!
# Object information

What is written for an object besides its operations and parameters: for a unit its master and the
parameters that are reset before washing; then for each group the members, and for an object with
groups that fills or pumps, the parameters of the line that are reset before washing.
-/
namespace Plant.Lua

/-- The parameters of a unit that are reset before washing. -/
def unitReset : List String :=
  ["PAR_FLOAT.V_ACCEPTING_CURRENT", "PAR_FLOAT.PRODUCT_TYPE", "PAR_FLOAT.V_ACCEPTING_SET"]

/-- The parameters of a line that are reset before washing. -/
def lineReset : List String := ["PAR_FLOAT.PROD_V", "PAR_FLOAT.WATER_V"]

/-- The operations that make an object with groups a line. -/
def lineOperations : List String := ["FILL", "PUMPING"]

/-- The texts with a comma after each but the last. -/
def separated : List String → List String
  | [] => []
  | [s] => [s]
  | s :: t :: ss => (s ++ ",") :: separated (t :: ss)

/-- The texts with a comma after each. -/
def terminated (ss : List String) : List String := ss.map (· ++ ",")

/-- The table of what is reset before washing. -/
def resetTable? (object : String) (entries : List String) : Option (Table Line) :=
  Table.ofEntries? ⟨0, object ++ ".reset_before_wash ="⟩ 1 "\x7d" (entries.map (⟨1, ·⟩))

/-- The line that names the master of a unit. -/
def masterLine (object : String) (master : Registered) : Line :=
  ⟨0, object ++ ".master = " ++ master.qualifiedName⟩

/-- The lines for a unit. -/
def unitLines (object : String) (master : Option Registered) : List Line :=
  (master.map (masterLine object)).toList ++
    (resetTable? object (separated (unitReset.map (object ++ "." ++ ·)))).elim [] Table.flatLines

/-- The table of the members of a group. -/
def groupTable? (object : String) (registry : Registry) (g : Group) : Option (Table Line) :=
  if g.isInert then none
  else Table.ofEntries? ⟨0, object ++ "." ++ g.luaName ++ " ="⟩ 0 "\x7d"
    ((terminated (g.memberNames registry)).map (⟨1, ·⟩))

/-- Tells whether the object has groups and fills or pumps. -/
def isLine (o : Object) : Bool :=
  o.usesGroups && o.operations.any fun op => lineOperations.contains op.luaName

/-- The lines for what an object connects. -/
def connectionLines (object : String) (registry : Registry) (o : Object) : List Line :=
  (o.groups.filterMap (groupTable? object registry)).flatMap Table.flatLines ++
    if isLine o then
      (resetTable? object (terminated (lineReset.map (object ++ "." ++ ·)))).elim [] Table.flatLines
    else []

/-- The lines of the information about an object. -/
def infoLines (object : String) (registry : Registry) (o : Object) : List Line :=
  (if o.isLevel .unit then unitLines object registry.processCell else []) ++
    connectionLines object registry o

/-- The text of the information about an object. -/
def objectInfo (object indent : String) (registry : Registry) (o : Object) : String :=
  write indent (infoLines object registry o)

end Plant.Lua
