import Plant.Json.Space

/-!
# Texts in documents

A text stands between quotes. Quotes, backslashes and control characters in it are escaped, and any
character may be: by a short escape or by the hexadecimal digits of its UTF-16 units. A text that
nobody asked for is skipped without a look at which characters its digits stand for.
-/
namespace Plant.Json

/-- The value of a hexadecimal digit. -/
def hexDigit? (c : Char) : Option Nat :=
  if '0' ≤ c ∧ c ≤ '9' then some (c.toNat - '0'.toNat)
  else if 'a' ≤ c ∧ c ≤ 'f' then some (c.toNat - 'a'.toNat + 10)
  else if 'A' ≤ c ∧ c ≤ 'F' then some (c.toNat - 'A'.toNat + 10)
  else none

/-- The value of four hexadecimal digits. -/
def hexUnit? (a b c d : Char) : Option Nat := do
  let a ← hexDigit? a
  let b ← hexDigit? b
  let c ← hexDigit? c
  let d ← hexDigit? d
  some (((a * 16 + b) * 16 + c) * 16 + d)

/-- The fault of an escape that less than four characters follow: it is cut off by the end of the
document if less than four bytes follow. -/
def cutOff (cs : List Char) : Fault :=
  if (String.ofList cs).utf8ByteSize < 4 then .unfinished else .malformed

/-- The character that a short escape stands for. -/
def shortEscape? (c : Char) : Option Char :=
  match c with
  | '"' => some '"'
  | '\\' => some '\\'
  | '/' => some '/'
  | 'b' => some '\x08'
  | 'f' => some '\x0c'
  | 'n' => some '\n'
  | 'r' => some '\r'
  | 't' => some '\t'
  | _ => none

/-- What a UTF-16 unit stands for after the high surrogate `high`, or after none. -/
inductive UnitMeaning where
  | char (c : Char)
  /-- A high surrogate, whose low surrogate has to follow. -/
  | high (unit : Nat)
  | nothing

/-- What a UTF-16 unit stands for. -/
def unitMeaning (high : Option Nat) (unit : Nat) : UnitMeaning :=
  match high with
  | none =>
    if 0xD800 ≤ unit ∧ unit ≤ 0xDBFF then .high unit
    else if 0xDC00 ≤ unit ∧ unit ≤ 0xDFFF then .nothing
    else .char (Char.ofNat unit)
  | some high =>
    if 0xDC00 ≤ unit ∧ unit ≤ 0xDFFF then
      .char (Char.ofNat (0x10000 + (high - 0xD800) * 0x400 + (unit - 0xDC00)))
    else .nothing

/-- Puts a character in front of the text that was read. -/
def putFront (c : Char) (read : Except Fault (List Char × List Char)) :
    Except Fault (List Char × List Char) :=
  read.map fun (text, cs) => (c :: text, cs)

/-- Reads a text after its opening quote; `high` is the high surrogate that was read last, if its
low surrogate has to follow. -/
def readText (high : Option Nat) : List Char → Except Fault (List Char × List Char)
  | [] => .error .unfinished
  | c :: cs =>
    if c = '\\' then
      match cs with
      | [] => .error .unfinished
      | e :: cs =>
        if e = 'u' then
          match cs with
          | a :: b :: c :: d :: cs =>
            match (hexUnit? a b c d).map (unitMeaning high) with
            | some (.char c) => putFront c (readText none cs)
            | some (.high unit) => readText (some unit) cs
            | _ => .error .malformed
          | cs => .error (cutOff cs)
        else
          match high, shortEscape? e with
          | none, some c => putFront c (readText none cs)
          | _, _ => .error .malformed
    else if high.isSome then .error .malformed
    else if c = '"' then .ok ([], cs)
    else if c.toNat < 0x20 then .error .malformed
    else putFront c (readText none cs)

/-- Skips a text after its opening quote. -/
def skipText : List Char → Except Fault (List Char)
  | [] => .error .unfinished
  | c :: cs =>
    if c = '\\' then
      match cs with
      | [] => .error .unfinished
      | e :: cs =>
        if e = 'u' then
          match cs with
          | a :: b :: c :: d :: cs =>
            if (hexUnit? a b c d).isSome then skipText cs else .error .malformed
          | cs => .error (cutOff cs)
        else if (shortEscape? e).isSome then skipText cs
        else .error .malformed
    else if c = '"' then .ok cs
    else if c.toNat < 0x20 then .error .malformed
    else skipText cs

/-! ## Writing -/

/-- A control character by the digits of its number. -/
def escapeControl (c : Char) : List Char :=
  ['\\', 'u', '0', '0', Nat.digitChar (c.toNat / 16), Nat.digitChar (c.toNat % 16)]

/-- The spelling of a character in a text. -/
def escape (c : Char) : List Char :=
  match c with
  | '"' => ['\\', '"']
  | '\\' => ['\\', '\\']
  | '\x08' => ['\\', 'b']
  | '\x0c' => ['\\', 'f']
  | '\n' => ['\\', 'n']
  | '\r' => ['\\', 'r']
  | '\t' => ['\\', 't']
  | c => if c.toNat < 0x20 then escapeControl c else [c]

/-- The text between quotes. -/
def writeText (s : String) : String := String.ofList ('"' :: s.toList.flatMap escape ++ ['"'])

end Plant.Json
