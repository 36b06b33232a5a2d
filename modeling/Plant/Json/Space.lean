import Plant.Json.Fault

/-!
# Between the values

White space and fixed words. Readers take the characters that are left to read and give back those
that are left after what they read.
-/
namespace Plant.Json

/-- Tells whether a character may stand between any two parts of a document. -/
def isSpace (c : Char) : Bool := c == ' ' || c == '\n' || c == '\t' || c == '\r'

/-- The characters from the first that is not white space. -/
def skipSpace (cs : List Char) : List Char := cs.dropWhile isSpace

/-- Reads the rest of a fixed word. -/
def readWord : List Char → List Char → Except Fault (List Char)
  | [], cs => .ok cs
  | _ :: _, [] => .error .unfinished
  | w :: ws, c :: cs => if c = w then readWord ws cs else .error .malformed

/-- Reads the colon between a key and its value. -/
def readColon (cs : List Char) : Except Fault (List Char) :=
  match skipSpace cs with
  | [] => .error .unfinished
  | c :: cs => if c = ':' then .ok cs else .error .malformed

/-- Reads the bracket or brace at the end of a list or record. -/
def readClosing (closing : Char) (cs : List Char) : Except Fault (List Char) :=
  match skipSpace cs with
  | [] => .error .unfinished
  | c :: cs => if c = closing then .ok cs else .error .malformed

/-- Looks for the next item of a list: the characters from it on, or nothing at the end of the
list. A comma stands before all items but the first, and an item after each comma. -/
def nextItem? (first : Bool) (cs : List Char) : Except Fault (Option (List Char)) :=
  match skipSpace cs with
  | [] => .error .unfinished
  | c :: cs =>
    if c = ']' then .ok none
    else if first then .ok (some (c :: cs))
    else if c = ',' then
      match skipSpace cs with
      | [] => .error .unfinished
      | c :: cs => if c = ']' then .error .malformed else .ok (some (c :: cs))
    else .error .malformed

/-- Looks for the next key of a record: the characters after its opening quote, or nothing at the
end of the record. -/
def nextKey? (first : Bool) (cs : List Char) : Except Fault (Option (List Char)) :=
  match skipSpace cs with
  | [] => .error .unfinished
  | c :: cs =>
    if c = '\x7d' then .ok none
    else if first then (if c = '"' then .ok (some cs) else .error .malformed)
    else if c = ',' then
      match skipSpace cs with
      | [] => .error .unfinished
      | c :: cs => if c = '"' then .ok (some cs) else .error .malformed
    else .error .malformed

end Plant.Json
