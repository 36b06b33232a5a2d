/-!
# Blanks

A text without the blanks at its ends, and the words between its blanks. A blank is a character of
Unicode's `White_Space` property: neither the zero width space nor the byte order mark is one.
-/
namespace Plant.Text

/-- Tells whether a character is white space. -/
def isBlank (c : Char) : Bool :=
  let n := c.toNat
  (9 ≤ n && n ≤ 13) || n == 0x20 || n == 0x85 || n == 0xA0 || n == 0x1680 ||
    (0x2000 ≤ n && n ≤ 0x200A) || n == 0x2028 || n == 0x2029 || n == 0x202F || n == 0x205F ||
    n == 0x3000

/-- The characters from the first to the last that is not blank. -/
def strip (cs : List Char) : List Char :=
  ((cs.dropWhile isBlank).reverse.dropWhile isBlank).reverse

/-- The text without the blanks at its ends. -/
def trim (s : String) : String := String.ofList (strip s.toList)

/-- Puts a character in front of the first word. -/
def extendFirst (c : Char) : List (List Char) → List (List Char)
  | [] => [[c]]
  | w :: ws => (c :: w) :: ws

/-- The longest pieces without a blank, in order. -/
def splitBlanks : List Char → List (List Char)
  | [] => []
  | c :: cs =>
    if isBlank c then splitBlanks cs
    else match cs with
      | [] => [[c]]
      | d :: _ => if isBlank d then [c] :: splitBlanks cs else extendFirst c (splitBlanks cs)

/-- The words of a text: its longest pieces without a blank, in order and with repetitions. -/
def words (s : String) : List String := (splitBlanks s.toList).map String.ofList

end Plant.Text
