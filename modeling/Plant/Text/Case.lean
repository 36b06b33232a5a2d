import Plant.Text.CaseTables

/-!
# Letter case

Lower and upper case of a text, by the full mappings of Unicode, in no language in particular. One
character may become several, and one mapping looks at its neighbours: a capital sigma at the end
of a word becomes a final sigma.
-/
namespace Plant.Text

/-- Tells whether one of the ranges holds the character. -/
def inRanges (ranges : List (Nat × Nat)) (c : Char) : Bool :=
  ranges.any fun (first, last) => first ≤ c.toNat && c.toNat ≤ last

/-- The character that the runs map `c` to: `c` itself if no run covers it. -/
def mapRuns (runs : List (Nat × Nat × Nat × Int)) (c : Char) : Char :=
  let n := c.toNat
  match runs.find? fun (first, last, step, _) => first ≤ n && n ≤ last && (n - first) % step == 0 with
  | some (_, _, _, shift) => Char.ofNat ((n : Int) + shift).toNat
  | none => c

/-- The characters that a long mapping or else the runs give for `c`. -/
def mapChar (long : List (Nat × List Nat)) (runs : List (Nat × Nat × Nat × Int)) (c : Char) : List Char :=
  match long.lookup c.toNat with
  | some cs => cs.map Char.ofNat
  | none => [mapRuns runs c]

/-- The lower case of a character that stands alone. -/
def lowerChar (c : Char) : List Char :=
  if c.toNat < 0x80 then [c.toLower] else mapChar CaseTables.lowerLong CaseTables.lowerRuns c

/-- The upper case of a character. -/
def upperChar (c : Char) : List Char :=
  if c.toNat < 0x80 then [c.toUpper] else mapChar CaseTables.upperLong CaseTables.upperRuns c

/-- Tells whether the first character that matters to the end of a word has case. -/
def startsCased (cs : List Char) : Bool :=
  match cs.dropWhile (inRanges CaseTables.caseIgnorable) with
  | [] => false
  | c :: _ => inRanges CaseTables.cased c

/-- The lower case of a capital sigma after `before`, read backwards, and before `after`. -/
def lowerSigma (before after : List Char) : Char :=
  if startsCased before && !startsCased after then 'ς' else 'σ'

/-- The lower case of the characters that follow `before`, read backwards. -/
def lowerAfter (before : List Char) : List Char → List Char
  | [] => []
  | c :: cs =>
    (if c = 'Σ' then [lowerSigma before cs] else lowerChar c) ++ lowerAfter (c :: before) cs

/-- The text in lower case. -/
def lower (s : String) : String := String.ofList (lowerAfter [] s.toList)

/-- The text in upper case. -/
def upper (s : String) : String := String.ofList (s.toList.flatMap upperChar)

end Plant.Text
