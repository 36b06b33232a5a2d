import Plant.Json.Skip

/-!
# Shapes

A shape says what a document has to hold in some place for it to be read as a value of a type, and
so it is also a reader. The fields of a record are read from a record in any order, keys that are
not known being passed over, or from a list in the order of the shape. The first fault in reading
order is the one that is reported.
-/
namespace Plant.Json

open Plant.Number

/-- What a value of open content turns out to be. -/
inductive Content where
  | integer (i : Int)
  | text (s : String)
  | other

mutual
/-- What is to be read for a value of a type. -/
inductive Shape : Type → Type 1 where
  | text : Shape String
  | flag : Shape Bool
  /-- An integer of the type of numbers with that name. -/
  | integer {α : Type} (name : String) (of? : Int → Option α) : Shape α
  | real : Shape Binary64
  /-- One of several names: as a text, or as the only key of a record, whose value is null. -/
  | variant {α : Type} (cases : List (String × α)) : Shape α
  /-- A value of any kind, from which the type with that name is made. -/
  | content {α : Type} (name : String) (of? : Content → Option α) : Shape α
  | nullable {α : Type} (shape : Shape α) : Shape (Option α)
  | list {α : Type} (shape : Shape α) : Shape (List α)
  | record {σ β α : Type} (name : String) (fields : Fields σ β) (make : β → α) : Shape α

/-- The fields of a record in order: while they are read, those that have been read; in the end,
all of them. -/
inductive Fields : Type → Type → Type 1 where
  | done : Fields Unit Unit
  | required {α σ β : Type} (key : String) (shape : Shape α) (rest : Fields σ β) :
      Fields (Option α × σ) (α × β)
  | defaulted {α σ β : Type} (key : String) (shape : Shape α) (value : α) (rest : Fields σ β) :
      Fields (Option α × σ) (α × β)
end

/-! ## Reading -/

/-- The fault of a value that is of another type; a broken value is reported as such. -/
def wrongType (expected : String) (cs : List Char) : Fault :=
  match cs with
  | [] => .unfinished
  | '[' :: _ => .mismatch (.type .list expected)
  | '\x7b' :: _ => .mismatch (.type .record expected)
  | 'n' :: cs => found (.null) (readWord ['u', 'l', 'l'] cs)
  | 't' :: cs => found (.flag true) (readWord ['r', 'u', 'e'] cs)
  | 'f' :: cs => found (.flag false) (readWord ['a', 'l', 's', 'e'] cs)
  | '"' :: cs =>
    match readText none cs with
    | .ok (s, _) => .mismatch (.type (.text (String.ofList s)) expected)
    | .error fault => fault
  | c :: cs =>
    if c = '-' ∨ c.isDigit then
      match readNumber (c :: cs) with
      | .ok (n, _) => .mismatch (.type n.found expected)
      | .error fault => fault
    else .malformed
where
  /-- The fault of a word, unless the word itself is broken. -/
  found (word : Found) : Except Fault (List Char) → Fault
    | .ok _ => .mismatch (.type word expected)
    | .error fault => fault

/-- Reads a text where a `name` is expected. -/
def readTextAs (name : String) (cs : List Char) : Except Fault (String × List Char) :=
  match skipSpace cs with
  | '"' :: cs => (readText none cs).map fun (s, cs) => (String.ofList s, cs)
  | cs => .error (wrongType name cs)

/-- Reads a number where a `name` is expected. -/
def readNumberAs (name : String) (cs : List Char) : Except Fault (Numeric × List Char) :=
  match skipSpace cs with
  | c :: cs => if c = '-' ∨ c.isDigit then readNumber (c :: cs) else .error (wrongType name (c :: cs))
  | [] => .error .unfinished

/-- Reads true or false. -/
def readFlag (cs : List Char) : Except Fault (Bool × List Char) :=
  match skipSpace cs with
  | 't' :: cs => (readWord ['r', 'u', 'e'] cs).map (true, ·)
  | 'f' :: cs => (readWord ['a', 'l', 's', 'e'] cs).map (false, ·)
  | cs => .error (wrongType "a boolean" cs)

/-- Reads an integer of the type of numbers with that name. -/
def readInteger {α : Type} (name : String) (of? : Int → Option α) (cs : List Char) :
    Except Fault (α × List Char) := do
  match ← readNumberAs name cs with
  | (.real x, _) => .error (.mismatch (.type (.real x) name))
  | (.integer i, cs) =>
    match of? i with
    | some a => .ok (a, cs)
    | none => .error (.mismatch (.range i name))

/-- Reads null. -/
def readNull (cs : List Char) : Except Fault (List Char) :=
  match skipSpace cs with
  | 'n' :: cs => readWord ['u', 'l', 'l'] cs
  | cs => .error (wrongType "unit" cs)

/-- Reads the name of a variant after its opening quote. -/
def readVariantName {α : Type} (cases : List (String × α)) (cs : List Char) :
    Except Fault (α × List Char) := do
  let (name, cs) ← readText none cs
  match cases.lookup (String.ofList name) with
  | some a => .ok (a, cs)
  | none => .error (.mismatch (.variant (String.ofList name) (cases.map Prod.fst)))

/-- Reads the name of a variant as a key; nothing but a text may be a key. -/
def readVariantKey {α : Type} (cases : List (String × α)) (cs : List Char) :
    Except Fault (α × List Char) :=
  match skipSpace cs with
  | [] => .error .unfinished
  | c :: cs => if c = '"' then readVariantName cases cs else .error .malformed

/-- Reads a variant. -/
def readVariant {α : Type} (room : Nat) (cases : List (String × α)) (cs : List Char) :
    Except Fault (α × List Char) :=
  match skipSpace cs with
  | [] => .error .unfinished
  | '"' :: cs => readVariantName cases cs
  | '\x7b' :: cs => do
    if room = 0 then .error .malformed
    let (a, cs) ← readVariantKey cases cs
    let cs ← readNull (← readColon cs)
    let cs ← readClosing '\x7d' cs
    .ok (a, cs)
  | _ => .error .malformed

/-- Reads a value of open content. -/
def readContent (bound room : Nat) (cs : List Char) : Except Fault (Content × List Char) :=
  match skipSpace cs with
  | [] => .error .unfinished
  | '"' :: cs => (readText none cs).map fun (s, cs) => (.text (String.ofList s), cs)
  | c :: cs =>
    if c = '-' ∨ c.isDigit then
      (readNumber (c :: cs)).map fun (n, cs) =>
        (match n with
          | .integer i => .integer i
          | .real _ => .other, cs)
    else (skipValue bound (.strict room) (c :: cs)).map (.other, ·)

/-- Reads the items of a list up to its end. -/
def readList {α : Type} (item : List Char → Except Fault (α × List Char)) :
    Nat → Bool → List Char → Except Fault (List α × List Char)
  | 0, _, _ => .error .unfinished
  | fuel + 1, first, cs => do
    match ← nextItem? first cs with
    | none => .ok ([], cs)
    | some cs =>
      let (a, cs) ← item cs
      let (as, cs) ← readList item fuel false cs
      .ok (a :: as, cs)

/-- Reads the members of a record up to its end. A member with a known key is read by `member`. -/
def readMembers {σ : Type} (bound : Nat)
    (member : String → σ → List Char → Option (Except Fault (σ × List Char))) :
    Nat → Bool → σ → List Char → Except Fault (σ × List Char)
  | 0, _, _, _ => .error .unfinished
  | fuel + 1, first, slots, cs => do
    match ← nextKey? first cs with
    | none => .ok (slots, cs)
    | some cs =>
      let (key, cs) ← readText none cs
      match member (String.ofList key) slots cs with
      | some read =>
        let (slots, cs) ← read
        readMembers bound member fuel false slots cs
      | none =>
        let cs ← skipValue bound .lax (← readColon cs)
        readMembers bound member fuel false slots cs

/-- Reads the value of a field that has not been read before. -/
def readField {α : Type} (key : String) (value : List Char → Except Fault (α × List Char))
    (slot : Option α) (cs : List Char) : Except Fault (α × List Char) :=
  if slot.isSome then .error (.mismatch (.duplicate key)) else readColon cs >>= value

/-- Reads a list or a record that may hold `room` more of them. -/
def readNested {α : Type} (expected : String) (room : Nat)
    (list record : Nat → List Char → Except Fault (α × List Char)) (cs : List Char) :
    Except Fault (α × List Char) :=
  match skipSpace cs with
  | '[' :: cs =>
    match room with
    | 0 => .error .malformed
    | room + 1 => do
      let (a, cs) ← list room cs
      .ok (a, ← readClosing ']' cs)
  | '\x7b' :: cs =>
    match room with
    | 0 => .error .malformed
    | room + 1 => do
      let (a, cs) ← record room cs
      .ok (a, ← readClosing '\x7d' cs)
  | cs => .error (wrongType expected cs)

namespace Fields

/-- The number of fields. -/
def size : {σ β : Type} → Fields σ β → Nat
  | _, _, done => 0
  | _, _, required _ _ rest => rest.size + 1
  | _, _, defaulted _ _ _ rest => rest.size + 1

/-- No field read yet. -/
def empty : {σ β : Type} → Fields σ β → σ
  | _, _, done => ()
  | _, _, required _ _ rest => (none, rest.empty)
  | _, _, defaulted _ _ _ rest => (none, rest.empty)

/-- All fields, once the record has ended. -/
def finish : {σ β : Type} → Fields σ β → σ → Except Fault β
  | _, _, done, () => .ok ()
  | _, _, required key _ rest, (slot, slots) =>
    match slot with
    | none => .error (.mismatch (.missing key))
    | some a => (rest.finish slots).map (a, ·)
  | _, _, defaulted _ _ value rest, (slot, slots) => (rest.finish slots).map (slot.getD value, ·)

end Fields

mutual
/-- Reads a value of a shape. No more than `room` lists and records may be nested in one another,
and `bound` is at least the number of characters. -/
def Shape.read (bound : Nat) : {α : Type} → Shape α → Nat → List Char →
    Except Fault (α × List Char)
  | _, .text, _, cs => readTextAs "a string" cs
  | _, .flag, _, cs => readFlag cs
  | _, .integer name of?, _, cs => readInteger name of? cs
  | _, .real, _, cs => (readNumberAs "f64" cs).map fun (n, cs) => (n.toReal, cs)
  | _, .variant cases, room, cs => readVariant room cases cs
  | _, .content name of?, room, cs => do
    let (c, cs) ← readContent bound room cs
    match of? c with
    | some a => .ok (a, cs)
    | none => .error (.mismatch (.content name))
  | _, .nullable shape, room, cs =>
    match skipSpace cs with
    | 'n' :: cs => (readWord ['u', 'l', 'l'] cs).map (none, ·)
    | cs => (shape.read bound room cs).map fun (a, cs) => (some a, cs)
  | _, .list shape, room, cs =>
    match skipSpace cs with
    | '[' :: cs =>
      match room with
      | 0 => .error .malformed
      | room + 1 => do
        let (as, cs) ← readList (shape.read bound room) (bound + 1) true cs
        .ok (as, ← readClosing ']' cs)
    | cs => .error (wrongType "a sequence" cs)
  | _, .record name fields make, room, cs =>
    readNested ("struct " ++ name) room
      (fun room cs =>
        (fields.readItems bound room name fields.size 0 cs).map fun (b, cs) => (make b, cs))
      (fun room cs => do
        let (slots, cs) ← readMembers bound (fields.readMember? bound room) (bound + 1) true
          fields.empty cs
        .ok (make (← fields.finish slots), cs))
      cs

/-- Reads the value of the field with that key after the key; nothing if no field has it. -/
def Fields.readMember? (bound room : Nat) : {σ β : Type} → Fields σ β → String → σ → List Char →
    Option (Except Fault (σ × List Char))
  | _, _, .done, _, _, _ => none
  | _, _, .required key' shape rest, key, (slot, slots), cs =>
    if key = key' then
      some ((readField key (shape.read bound room) slot cs).map fun (a, cs) =>
        ((some a, slots), cs))
    else (rest.readMember? bound room key slots cs).map (·.map fun (slots, cs) =>
      ((slot, slots), cs))
  | _, _, .defaulted key' shape _ rest, key, (slot, slots), cs =>
    if key = key' then
      some ((readField key (shape.read bound room) slot cs).map fun (a, cs) =>
        ((some a, slots), cs))
    else (rest.readMember? bound room key slots cs).map (·.map fun (slots, cs) =>
      ((slot, slots), cs))

/-- Reads the fields from a list, beginning with the item at `index`. The list may end before
fields that have a default; `name` and `size` are those of the record. -/
def Fields.readItems (bound room : Nat) (name : String) (size : Nat) : {σ β : Type} →
    Fields σ β → Nat → List Char → Except Fault (β × List Char)
  | _, _, .done, _, cs => .ok ((), cs)
  | _, _, .required _ shape rest, index, cs => do
    match ← nextItem? (index == 0) cs with
    | none => .error (.mismatch (.short index name size))
    | some cs =>
      let (a, cs) ← shape.read bound room cs
      let (b, cs) ← rest.readItems bound room name size (index + 1) cs
      .ok ((a, b), cs)
  | _, _, .defaulted _ shape value rest, index, cs => do
    match ← nextItem? (index == 0) cs with
    | none =>
      let (b, cs) ← rest.readItems bound room name size (index + 1) cs
      .ok ((value, b), cs)
    | some cs =>
      let (a, cs) ← shape.read bound room cs
      let (b, cs) ← rest.readItems bound room name size (index + 1) cs
      .ok ((a, b), cs)
end

/-- The number of lists and records that may be nested in one another. -/
def maxNesting : Nat := 127

/-- Reads a whole document as a value of a shape. -/
def Shape.readDocument {α : Type} (shape : Shape α) (document : String) : Except Fault α := do
  let cs := document.toList
  let (a, rest) ← shape.read cs.length maxNesting cs
  if skipSpace rest = [] then .ok a else .error .malformed

end Plant.Json
