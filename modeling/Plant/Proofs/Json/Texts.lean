import Plant.Proofs.Json.Numbers

/-!
# Reading white space and texts

However the characters of a text are spelled, by escapes or as they are, they are read back, and a
text that nobody asked for is passed over. White space is of no account.

Results:
1. `skipSpace_spaces`: white space is passed over.
2. `readText_spelled`: a text is read however it is spelled.
3. `skipText_loose`: a text is passed over.
-/
namespace Plant.Json

variable {cs ds s text rest : List Char} {c : Char}

/-! ## White space -/

theorem isSpace_iff : isSpace c = true ↔ c ∈ [' ', '\n', '\t', '\r'] := by
  simp [isSpace, or_assoc]

/-- The text does not start with white space. -/
def Starts (cs : List Char) : Prop := ∃ c ds, cs = c :: ds ∧ isSpace c = false

/-- The text starts as values do: neither with white space nor with the end of a list. -/
def Opens (v : List Char) : Prop := ∃ c ds, v = c :: ds ∧ isSpace c = false ∧ c ≠ ']'

theorem skipSpace_spaces (hs : Spaces s) (cs : List Char) : skipSpace (s ++ cs) = skipSpace cs := by
  induction s with
  | nil => rfl
  | cons c s ih =>
    rw [Spaces, List.forall_mem_cons] at hs
    rw [List.cons_append, skipSpace, List.dropWhile_cons_of_pos (isSpace_iff.mpr hs.1)]
    exact ih hs.2

theorem skipSpace_of_starts (h : Starts cs) : skipSpace cs = cs := by
  obtain ⟨c, ds, rfl, hc⟩ := h
  exact List.dropWhile_cons_of_neg (by rw [hc]; exact Bool.false_ne_true)

/-- White space in front is passed over. -/
theorem skipSpace_append (hs : Spaces s) (h : Starts cs) : skipSpace (s ++ cs) = cs := by
  rw [skipSpace_spaces hs, skipSpace_of_starts h]

theorem starts_cons (h : isSpace c = false) (cs : List Char) : Starts (c :: cs) := ⟨c, cs, rfl, h⟩

theorem readWord_append (w rest : List Char) : readWord w (w ++ rest) = .ok rest := by
  induction w with
  | nil => rfl
  | cons c w ih => rw [List.cons_append, readWord, if_pos rfl, ih]

/-! ## Between values -/

section Between

variable {s' v : List Char}

theorem readColon_append (hs : Spaces s) (cs : List Char) :
    readColon (s ++ ':' :: cs) = .ok cs := by
  rw [readColon, skipSpace_append hs (starts_cons rfl cs)]
  rfl

theorem readClosing_append (hs : Spaces s) (hc : isSpace c = false) (cs : List Char) :
    readClosing c (s ++ c :: cs) = .ok cs := by
  rw [readClosing, skipSpace_append hs (starts_cons hc cs)]
  exact if_pos rfl

theorem nextItem?_first (hs : Spaces s) (hv : Opens v) (rest : List Char) :
    nextItem? true (s ++ (v ++ rest)) = .ok (some (v ++ rest)) := by
  obtain ⟨c, ds, rfl, hc, closing⟩ := hv
  rw [nextItem?, List.cons_append, skipSpace_append hs (starts_cons hc _)]
  simp [closing]

theorem nextItem?_more (hs : Spaces s) (hs' : Spaces s') (hv : Opens v) (rest : List Char) :
    nextItem? false (s ++ ',' :: (s' ++ (v ++ rest))) = .ok (some (v ++ rest)) := by
  obtain ⟨c, ds, rfl, hc, closing⟩ := hv
  rw [nextItem?, skipSpace_append hs (starts_cons rfl _)]
  simp [skipSpace_append hs' (starts_cons hc (ds ++ rest)), closing]

theorem nextItem?_end (hs : Spaces s) (first : Bool) (rest : List Char) :
    nextItem? first (s ++ ']' :: rest) = .ok none := by
  rw [nextItem?, skipSpace_append hs (starts_cons rfl _)]
  rfl

theorem nextKey?_first (hs : Spaces s) (cs : List Char) :
    nextKey? true (s ++ '"' :: cs) = .ok (some cs) := by
  rw [nextKey?, skipSpace_append hs (starts_cons rfl _)]
  rfl

theorem nextKey?_more (hs : Spaces s) (hs' : Spaces s') (cs : List Char) :
    nextKey? false (s ++ ',' :: (s' ++ '"' :: cs)) = .ok (some cs) := by
  rw [nextKey?, skipSpace_append hs (starts_cons rfl _)]
  simp [skipSpace_append hs' (starts_cons (c := '"') rfl cs)]

theorem nextKey?_end (hs : Spaces s) (first : Bool) (rest : List Char) :
    nextKey? first (s ++ '\x7d' :: rest) = .ok none := by
  rw [nextKey?, skipSpace_append hs (starts_cons rfl _)]
  rfl

end Between

/-! ## Texts -/

namespace TextLemmas

theorem hexDigit?_of_mem : ∀ d ∈ hexDigits, hexDigit? d.1 = some d.2 := by decide

theorem shortEscape?_of_mem : ∀ e ∈ shortEscapes, shortEscape? e.1 = some e.2 ∧ e.1 ≠ 'u' := by
  decide

/-- Four characters that are hexadecimal digits, and the unit that they are read as. -/
theorem exists_of_hexUnit {u : Nat} (h : HexUnit u ds) :
    ∃ a b c d, ds = [a, b, c, d] ∧ hexUnit? a b c d = some u := by
  cases h with
  | @digits a b c d i j k l ha hb hc hd =>
    refine ⟨a, b, c, d, rfl, ?_⟩
    simp [hexUnit?, hexDigit?_of_mem _ ha, hexDigit?_of_mem _ hb, hexDigit?_of_mem _ hc,
      hexDigit?_of_mem _ hd]

theorem isValidChar (c : Char) : c.toNat < 0xD800 ∨ 0xDFFF < c.toNat ∧ c.toNat < 0x110000 := c.valid

theorem unitMeaning_char (c : Char) : unitMeaning none c.toNat = .char c := by
  have valid := isValidChar c
  rw [unitMeaning, if_neg (by omega), if_neg (by omega), Char.ofNat_toNat]

theorem unitMeaning_high (c : Char) :
    unitMeaning none (0xD800 + (c.toNat - 0x10000) / 0x400) =
      .high (0xD800 + (c.toNat - 0x10000) / 0x400) := by
  have valid := isValidChar c
  rw [unitMeaning, if_pos (by omega)]

theorem unitMeaning_low (c : Char) (beyond : 0x10000 ≤ c.toNat) :
    unitMeaning (some (0xD800 + (c.toNat - 0x10000) / 0x400))
      (0xDC00 + (c.toNat - 0x10000) % 0x400) = .char c := by
  have number : 0x10000 + (0xD800 + (c.toNat - 0x10000) / 0x400 - 0xD800) * 0x400 +
      (0xDC00 + (c.toNat - 0x10000) % 0x400 - 0xDC00) = c.toNat := by omega
  rw [unitMeaning, if_pos (by omega), number, Char.ofNat_toNat]

theorem readText_unit {u : Nat} (h : HexUnit u ds) (high : Option Nat) (cs : List Char) :
    readText high ('\\' :: 'u' :: (ds ++ cs)) =
      match unitMeaning high u with
      | .char c => putFront c (readText none cs)
      | .high unit => readText (some unit) cs
      | .nothing => .error .malformed := by
  obtain ⟨a, b, c, d, rfl, hu⟩ := exists_of_hexUnit h
  simp only [List.cons_append, List.nil_append, readText, if_pos, hu, Option.map_some]
  cases unitMeaning high u <;> rfl

theorem readText_short {e c : Char} (h : (e, c) ∈ shortEscapes) (cs : List Char) :
    readText none ('\\' :: e :: cs) = putFront c (readText none cs) := by
  obtain ⟨he, hu⟩ : shortEscape? e = some c ∧ e ≠ 'u' := shortEscape?_of_mem _ h
  rw [readText.eq_def]
  simp [he, hu]

theorem readText_bare (h : Bare c) (cs : List Char) :
    readText none (c :: cs) = putFront c (readText none cs) := by
  rw [readText.eq_def]
  change (if c = '\\' then _ else if c = '"' then _ else if c.toNat < 0x20 then _ else
    putFront c (readText none cs)) = _
  rw [if_neg h.ne_backslash, if_neg h.ne_quote, if_neg (Nat.not_lt.mpr h.not_control)]

theorem skipText_unit {u : Nat} (h : HexUnit u ds) (cs : List Char) :
    skipText ('\\' :: 'u' :: (ds ++ cs)) = skipText cs := by
  obtain ⟨a, b, c, d, rfl, hu⟩ := exists_of_hexUnit h
  simp [skipText, hu]

theorem skipText_short {e c : Char} (h : (e, c) ∈ shortEscapes) (cs : List Char) :
    skipText ('\\' :: e :: cs) = skipText cs := by
  obtain ⟨he, hu⟩ : shortEscape? e = some c ∧ e ≠ 'u' := shortEscape?_of_mem _ h
  rw [skipText.eq_def]
  simp [he, hu]

theorem skipText_bare (h : Bare c) (cs : List Char) : skipText (c :: cs) = skipText cs := by
  rw [skipText.eq_def]
  change (if c = '\\' then _ else if c = '"' then _ else if c.toNat < 0x20 then _ else
    skipText cs) = _
  rw [if_neg h.ne_backslash, if_neg h.ne_quote, if_neg (Nat.not_lt.mpr h.not_control)]

end TextLemmas

open TextLemmas

/-- A text is read however it is spelled. -/
theorem readText_spelled (h : Spelled text cs) (rest : List Char) :
    readText none (cs ++ '"' :: rest) = .ok (text, rest) := by
  induction h with
  | nil => rw [List.nil_append, readText.eq_def]; rfl
  | bare hc _ ih => rw [List.cons_append, readText_bare hc, ih]; rfl
  | short he _ ih => rw [List.cons_append, List.cons_append, readText_short he, ih]; rfl
  | @unit c text ds cs hu _ ih =>
    have shape : '\\' :: 'u' :: ds ++ cs ++ '"' :: rest =
        '\\' :: 'u' :: (ds ++ (cs ++ '"' :: rest)) := by simp
    rw [shape, readText_unit hu, unitMeaning_char, ih]
    rfl
  | @pair c text hs ls cs beyond hh hl _ ih =>
    have shape : '\\' :: 'u' :: hs ++ '\\' :: 'u' :: ls ++ cs ++ '"' :: rest =
        '\\' :: 'u' :: (hs ++ '\\' :: 'u' :: (ls ++ (cs ++ '"' :: rest))) := by simp
    rw [shape, readText_unit hh, unitMeaning_high]
    show readText _ ('\\' :: 'u' :: (ls ++ _)) = _
    rw [readText_unit hl, unitMeaning_low c beyond, ih]
    rfl

/-- A text is passed over. -/
theorem skipText_loose (h : Loose cs) (rest : List Char) :
    skipText (cs ++ '"' :: rest) = .ok rest := by
  induction h with
  | nil => rw [List.nil_append, skipText.eq_def]; rfl
  | bare hc _ ih => rw [List.cons_append, skipText_bare hc, ih]
  | short he _ ih => rw [List.cons_append, List.cons_append, skipText_short he, ih]
  | @unit u ds cs hu _ ih =>
    have shape : '\\' :: 'u' :: ds ++ cs ++ '"' :: rest =
        '\\' :: 'u' :: (ds ++ (cs ++ '"' :: rest)) := by simp
    rw [shape, skipText_unit hu, ih]

end Plant.Json
