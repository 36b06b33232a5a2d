import Plant.Json.Number
import Plant.Json.Text

/-!
# Passing over values

A value that is not asked for is passed over without a limit to how deep lists and records are
nested in it, and with little care for its texts and numbers. A value of a type that leaves its
content open is passed over with the same care as any other value that is asked for.
-/
namespace Plant.Json

/-- What a list or record that has begun is. -/
inductive Frame where
  | list
  | record
deriving DecidableEq

/-- How a value is passed over. -/
inductive Care where
  /-- With any nesting, and without a look at what texts and numbers stand for. -/
  | lax
  /-- With at most `room` lists and records nested in one another. -/
  | strict (room : Nat)

namespace Care

/-- Tells whether a list or record may begin inside others. -/
def allows (frames : List Frame) : Care → Bool
  | lax => true
  | strict room => frames.length < room

/-- Passes over a text after its opening quote. -/
def text (cs : List Char) : Care → Except Fault (List Char)
  | lax => skipText cs
  | strict _ => (readText none cs).map (·.2)

/-- Passes over a number. -/
def number (cs : List Char) : Care → Except Fault (List Char)
  | lax => skipNumber cs
  | strict _ => (readNumber cs).map (·.2)

end Care

/-- What comes next. -/
inductive Awaiting where
  | value
  /-- The first item or key of the innermost list or record, or its end. -/
  | first
  /-- A comma or the end of the innermost list or record. -/
  | more
deriving DecidableEq

/-- Passes over a value that is neither a list nor a record and starts with `c`. -/
def skipScalar (care : Care) (c : Char) (cs : List Char) : Except Fault (List Char) :=
  match c with
  | 'n' => readWord ['u', 'l', 'l'] cs
  | 't' => readWord ['r', 'u', 'e'] cs
  | 'f' => readWord ['a', 'l', 's', 'e'] cs
  | '"' => care.text cs
  | c => if c = '-' ∨ c.isDigit then care.number (c :: cs) else .error .malformed

/-- Passes over the next key of a record and its colon: nothing if the record ends instead. -/
def skipKey? (care : Care) (first : Bool) (cs : List Char) : Except Fault (Option (List Char)) := do
  match ← nextKey? first cs with
  | none => .ok none
  | some cs => some <$> (readColon =<< care.text cs)

/-- Passes over values until the frames that have begun are all closed. Each of the `fuel` steps
takes at least one character. -/
def skipFrom (care : Care) : Nat → Awaiting → List Frame → List Char → Except Fault (List Char)
  | 0, _, _, _ => .error .unfinished
  | _ + 1, .more, [], cs => .ok cs
  | _ + 1, .first, [], cs => .ok cs
  | fuel + 1, .value, frames, cs =>
    match skipSpace cs with
    | [] => .error .unfinished
    | c :: cs =>
      if c = '[' ∨ c = '\x7b' then
        if care.allows frames then
          skipFrom care fuel .first ((if c = '[' then .list else .record) :: frames) cs
        else .error .malformed
      else do skipFrom care fuel .more frames (← skipScalar care c cs)
  | fuel + 1, awaiting, .list :: frames, cs => do
    match ← nextItem? (awaiting = .first) cs with
    | none => skipFrom care fuel .more frames (← readClosing ']' cs)
    | some cs => skipFrom care fuel .value (.list :: frames) cs
  | fuel + 1, awaiting, .record :: frames, cs => do
    match ← skipKey? care (awaiting = .first) cs with
    | none => skipFrom care fuel .more frames (← readClosing '\x7d' cs)
    | some cs => skipFrom care fuel .value (.record :: frames) cs

/-- Passes over one value; `bound` is at least the number of characters. -/
def skipValue (bound : Nat) (care : Care) (cs : List Char) : Except Fault (List Char) :=
  skipFrom care (2 * bound + 1) .value [] cs

end Plant.Json
