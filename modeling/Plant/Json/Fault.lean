import Plant.Number.Shortest
import Plant.Text.Quoted

/-!
# Faults

Why a document is refused. It may be malformed or end too early; or it may be well formed as far as
it has been read and hold something else than was asked for.
-/
namespace Plant.Json

/-- What a document holds in some place. -/
inductive Found where
  | null
  | flag (value : Bool)
  | integer (value : Int)
  | real (value : Number.Binary64)
  | text (value : String)
  | list
  | record

/-- How a document differs from what was asked for. -/
inductive Mismatch where
  /-- Another type of value. -/
  | type (found : Found) (expected : String)
  /-- An integer that the type of number does not have. -/
  | range (value : Int) (expected : String)
  /-- A list that ends before a required field of a record. -/
  | short (length : Nat) (record : String) (size : Nat)
  /-- A name that is none of the variants. -/
  | variant (name : String) (known : List String)
  /-- A value that none of the alternatives of a type allow. -/
  | content (name : String)
  | missing (key : String)
  | duplicate (key : String)

/-- Why a document is refused. -/
inductive Fault where
  | malformed
  | unfinished
  | mismatch (m : Mismatch)

/-! ## Messages -/

/-- The text between grave accents. -/
def accented (s : String) : String := "`" ++ s ++ "`"

/-- The words for what was found. -/
def Found.message : Found → String
  | null => "null"
  | flag b => "boolean " ++ accented (if b then "true" else "false")
  | integer i => "integer " ++ accented (Number.decimalInt i)
  | real x => "floating point " ++ accented (Number.shortest x)
  | text s => "string " ++ Text.quoted s
  | list => "sequence"
  | record => "map"

/-- The words for a choice. -/
def choice : List String → String
  | [] => "nothing"
  | [a] => accented a
  | [a, b] => accented a ++ " or " ++ accented b
  | names => "one of " ++ ", ".intercalate (names.map accented)

/-- The words for a number of elements. -/
def elements (n : Nat) : String :=
  Number.decimal n ++ (if n = 1 then " element" else " elements")

/-- The words for a mismatch. -/
def Mismatch.message : Mismatch → String
  | type found expected => "invalid type: " ++ found.message ++ ", expected " ++ expected
  | range i expected => "invalid value: " ++ (Found.integer i).message ++ ", expected " ++ expected
  | short n record size =>
    "invalid length " ++ Number.decimal n ++ ", expected struct " ++ record ++ " with " ++
      elements size
  | variant name known => "unknown variant " ++ accented name ++ ", expected " ++ choice known
  | content name => "data did not match any variant of untagged enum " ++ name
  | missing key => "missing field " ++ accented key
  | duplicate key => "duplicate field " ++ accented key

end Plant.Json
