import Plant.Group
import Plant.Json.Types
import Plant.Parameter
import Plant.SystemParameter

/-!
# Values in documents

The values that documents hold on their own: levels, kinds of parameters and admissions by name,
owners by number, and system parameters.
-/
namespace Plant

open Json (Shape)

/-- A level, by name. -/
def Level.shape : Shape Level := .variant (Level.all.map fun l => (l.name, l))

/-- The document that holds the level. -/
def Level.write (l : Level) : String := Json.writeText l.name

/-- A kind of parameter, by name. -/
def ParameterKind.shape : Shape ParameterKind :=
  .variant (ParameterKind.all.map fun k => (k.name, k))

/-- The document that holds the kind. -/
def ParameterKind.write (k : ParameterKind) : String := Json.writeText k.name

/-- An admission, by name. -/
def Admission.shape : Shape Admission := .variant (Admission.every.map fun a => (a.name, a))

/-- The document that holds the admission. -/
def Admission.write (a : Admission) : String := Json.writeText a.name

/-- An owner, by number. -/
def Owner.shape : Shape Owner :=
  .integer "usize" fun i =>
    if 0 ≤ i ∧ i < UInt64.size then some ⟨UInt64.ofNat i.toNat⟩ else none

/-- The document that holds the owner. -/
def Owner.write (o : Owner) : String := Number.decimal o.number.toNat

/-- The owner that a document holds. -/
def Owner.read (document : String) : Except Json.Fault Owner := Owner.shape.readDocument document

/-- A system parameter, which has to have all its fields. -/
def SystemParameter.shape : Shape SystemParameter :=
  .record "SystemParam"
    (.required "idx" .word32 <|
      .required "lua_name" .text <|
      .required "name" .text <|
      .required "value" .real <|
      .required "meter" .text .done)
    fun (index, luaName, name, value, meter, ()) => { index, luaName, name, value, meter }

end Plant
