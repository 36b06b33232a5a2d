import Mathlib.Data.List.Forall2
import Plant.Json.Types

/-!
# The grammar of documents

Which texts are values, and which texts write a given one, said without reading them. White space
may stand around every part, every character of a text may be escaped, and a record may be written
with its keys in any order or as a list of its fields. A value under a key that is not known may be
any value, nested to any depth.
-/
namespace Plant.Json

open Plant.Number

/-! ## White space -/

/-- Text that means nothing between the parts of a document. -/
def Spaces (cs : List Char) : Prop := ∀ c ∈ cs, c ∈ [' ', '\n', '\t', '\r']

theorem spaces_nil : Spaces [] := fun _ h => nomatch h

/-! ## Numbers -/

/-- One or more decimal digits. -/
structure Digits (cs : List Char) : Prop where
  ne_nil : cs ≠ []
  isDigit : ∀ c ∈ cs, c.isDigit = true

/-- Digits without a zero in front of others. -/
structure Whole (cs : List Char) : Prop extends Digits cs where
  leading : ∀ ds, cs = '0' :: ds → ds = []

/-- A point and the digits behind it, or nothing. -/
inductive Fraction : List Char → List Char → Prop
  | none : Fraction [] []
  | digits {ds : List Char} : Digits ds → Fraction ds ('.' :: ds)

/-- A mark and the exponent behind it, or nothing, which stands for zero. -/
inductive Exponent : Int → List Char → Prop
  | none : Exponent 0 []
  | unsigned {mark : Char} {ds : List Char} : mark ∈ ['e', 'E'] → Digits ds →
      Exponent (ofDigits ds) (mark :: ds)
  | plus {mark : Char} {ds : List Char} : mark ∈ ['e', 'E'] → Digits ds →
      Exponent (ofDigits ds) (mark :: '+' :: ds)
  | minus {mark : Char} {ds : List Char} : mark ∈ ['e', 'E'] → Digits ds →
      Exponent (-ofDigits ds) (mark :: '-' :: ds)

/-- The text is a number. -/
inductive NumberText : List Char → Prop
  | unsigned {w ds f e : List Char} {k : Int} : Whole w → Fraction ds f → Exponent k e →
      NumberText (w ++ f ++ e)
  | negative {w ds f e : List Char} {k : Int} : Whole w → Fraction ds f → Exponent k e →
      NumberText ('-' :: (w ++ f ++ e))

/-- The text is an integer, without a fraction or an exponent. Zero has no sign. -/
inductive IntegerText : Int → List Char → Prop
  | unsigned {w : List Char} : Whole w → IntegerText (ofDigits w) w
  | negative {w : List Char} : Whole w → ofDigits w ≠ 0 → IntegerText (-ofDigits w) ('-' :: w)

/-- The digits go on from the number `n`, and the first of them are kept, as long as the number that
they make stays below `2^64`. -/
structure Kept (n : Nat) (ds kept left : List Char) : Prop where
  split : ds = kept ++ left
  small : Nat.ofDigitChars 10 kept n < UInt64.size
  full : ∀ d ∈ left.head?, UInt64.size ≤ Nat.ofDigitChars 10 (kept ++ [d]) n

/-- The magnitude is a number times a power of ten in floating-point arithmetic: the number and the
power are rounded to the nearest ones, and so is their product, which has to be finite, or their
quotient. Below `10^-308` the quotient is divided once more, and below `10^-616` nothing is left. -/
inductive Scaled (n : Nat) : Int → Nat → Prop
  | zero (k : Nat) : n = 0 → Scaled n k 0
  | multiplied {k m : Nat} : n ≠ 0 → k ≤ 308 →
      m = Binary64.mul (Binary64.nearest n 1) (powerOfTen k) → m < Binary64.infinity → Scaled n k m
  | divided {k : Nat} : 0 < k → k ≤ 308 →
      Scaled n (-k) (Binary64.div (Binary64.nearest n 1) (powerOfTen k))
  | dividedTwice {k : Nat} : 308 < k → k ≤ 616 →
      Scaled n (-k)
        (Binary64.div (Binary64.div (Binary64.nearest n 1) (powerOfTen 308)) (powerOfTen (k - 308)))
  | vanishing {k : Nat} : 616 < k → Scaled n (-k) 0

/-- The text is a number without a sign, and its magnitude as a floating-point number. An integer of
64 bits is rounded to the nearest one. Of any other number the first digits are kept, those of the
whole part and then those of the fraction, and the number that they make is scaled. The exponent is
the one that is written, plus one for each digit of the whole part that is left off, minus one for
each digit of the fraction that is kept. -/
inductive MagnitudeText : Nat → List Char → Prop
  | integer {w : List Char} : Whole w → ofDigits w < UInt64.size →
      MagnitudeText (Binary64.nearest (ofDigits w) 1) w
  | scaled {w ds f e kept left kept' left' : List Char} {k : Int} {m : Nat} : Whole w →
      Fraction ds f → Exponent k e → (f ++ e = [] → UInt64.size ≤ ofDigits w) →
      Kept 0 w kept left → Kept (ofDigits kept) ds kept' left' →
      Scaled (ofDigits (kept ++ kept')) (left.length - kept'.length + k) m →
      MagnitudeText m (w ++ f ++ e)

/-- The text is a number, and its value as a floating-point number. -/
inductive RealText : Binary64 → List Char → Prop
  | unsigned {m : Nat} {v : List Char} : MagnitudeText m v → RealText (.ofMagnitude false m) v
  | negative {m : Nat} {v : List Char} : MagnitudeText m v →
      RealText (.ofMagnitude true m) ('-' :: v)

/-! ## Texts -/

/-- Hexadecimal digits and their values. -/
def hexDigits : List (Char × Nat) :=
  [('0', 0), ('1', 1), ('2', 2), ('3', 3), ('4', 4), ('5', 5), ('6', 6), ('7', 7), ('8', 8),
    ('9', 9), ('a', 10), ('b', 11), ('c', 12), ('d', 13), ('e', 14), ('f', 15), ('A', 10),
    ('B', 11), ('C', 12), ('D', 13), ('E', 14), ('F', 15)]

/-- Four hexadecimal digits and the UTF-16 unit that they are. -/
inductive HexUnit : Nat → List Char → Prop
  | digits {a b c d : Char} {i j k l : Nat} : (a, i) ∈ hexDigits → (b, j) ∈ hexDigits →
      (c, k) ∈ hexDigits → (d, l) ∈ hexDigits →
      HexUnit (((i * 16 + j) * 16 + k) * 16 + l) [a, b, c, d]

/-- What may follow a backslash, and the character that the two stand for. -/
def shortEscapes : List (Char × Char) :=
  [('"', '"'), ('\\', '\\'), ('/', '/'), ('b', '\x08'), ('f', '\x0c'), ('n', '\n'), ('r', '\r'),
    ('t', '\t')]

/-- A character that may stand in a text as it is. -/
structure Bare (c : Char) : Prop where
  not_control : 0x20 ≤ c.toNat
  ne_quote : c ≠ '"'
  ne_backslash : c ≠ '\\'

instance : DecidablePred Bare := fun c =>
  decidable_of_iff (0x20 ≤ c.toNat ∧ c ≠ '"' ∧ c ≠ '\\')
    ⟨fun ⟨control, quote, backslash⟩ => ⟨control, quote, backslash⟩, fun h => ⟨h.1, h.2, h.3⟩⟩

/-- The characters are spelled so between quotes: each as it is or by an escape. One beyond the
first `0x10000` takes the two UTF-16 units of a surrogate pair. -/
inductive Spelled : List Char → List Char → Prop
  | nil : Spelled [] []
  | bare {c : Char} {text cs : List Char} : Bare c → Spelled text cs → Spelled (c :: text) (c :: cs)
  | short {e c : Char} {text cs : List Char} : (e, c) ∈ shortEscapes → Spelled text cs →
      Spelled (c :: text) ('\\' :: e :: cs)
  | unit {c : Char} {text ds cs : List Char} : HexUnit c.toNat ds → Spelled text cs →
      Spelled (c :: text) ('\\' :: 'u' :: ds ++ cs)
  | pair {c : Char} {text hs ls cs : List Char} : 0x10000 ≤ c.toNat →
      HexUnit (0xD800 + (c.toNat - 0x10000) / 0x400) hs →
      HexUnit (0xDC00 + (c.toNat - 0x10000) % 0x400) ls → Spelled text cs →
      Spelled (c :: text) ('\\' :: 'u' :: hs ++ '\\' :: 'u' :: ls ++ cs)

/-- The characters may stand between quotes, whatever their escapes stand for. -/
inductive Loose : List Char → Prop
  | nil : Loose []
  | bare {c : Char} {cs : List Char} : Bare c → Loose cs → Loose (c :: cs)
  | short {e c : Char} {cs : List Char} : (e, c) ∈ shortEscapes → Loose cs → Loose ('\\' :: e :: cs)
  | unit {u : Nat} {ds cs : List Char} : HexUnit u ds → Loose cs → Loose ('\\' :: 'u' :: ds ++ cs)

/-- The characters stand between quotes. -/
def Between (P : List Char → Prop) (v : List Char) : Prop := ∃ cs, P cs ∧ v = '"' :: (cs ++ ['"'])

/-- The text is written so. -/
def Quoted (s : String) : List Char → Prop := Between (Spelled s.toList)

theorem spelled_of_bare {cs : List Char} (h : ∀ c ∈ cs, Bare c) : Spelled cs cs := by
  induction cs with
  | nil => exact .nil
  | cons c cs ih =>
    rw [List.forall_mem_cons] at h
    exact .bare h.1 (ih h.2)

theorem quoted_of_bare {s : String} (h : s.toList.all (Bare ·) = true) :
    Quoted s ('"' :: (s.toList ++ ['"'])) :=
  ⟨s.toList, spelled_of_bare fun c hc => of_decide_eq_true (List.all_eq_true.mp h c hc), rfl⟩

/-! ## Lists and records -/

/-- A value with white space around it. -/
def Pads (v i : List Char) : Prop := ∃ s s', Spaces s ∧ Spaces s' ∧ i = s ++ v ++ s'

/-- A value under a key that is written in some way. -/
def Keyed (key : List Char → Prop) (v m : List Char) : Prop :=
  ∃ s k s' i, Spaces s ∧ key k ∧ Spaces s' ∧ Pads v i ∧ m = s ++ k ++ s' ++ ':' :: i

theorem pads_self (v : List Char) : Pads v v :=
  ⟨[], [], spaces_nil, spaces_nil, (List.append_nil v).symm⟩

theorem keyed_append {key : List Char → Prop} {k : List Char} (hk : key k) (v : List Char) :
    Keyed key v (k ++ ':' :: v) :=
  ⟨[], k, [], v, spaces_nil, hk, spaces_nil, pads_self v, by simp⟩

/-- Nothing but white space, or items with commas between them, in brackets or braces. -/
inductive Enclosed (opening closing : Char) : List (List Char) → List Char → Prop
  | empty {s : List Char} : Spaces s → Enclosed opening closing [] (opening :: (s ++ [closing]))
  | items (i : List Char) (is : List (List Char)) :
      Enclosed opening closing (i :: is) (opening :: (i ++ is.flatMap (',' :: ·) ++ [closing]))

theorem enclosed_singleton (opening closing : Char) (i : List Char) :
    Enclosed opening closing [i] (opening :: (i ++ [closing])) := by
  have enclosed : Enclosed opening closing [i] _ := .items i []
  rwa [List.flatMap_nil, List.append_nil] at enclosed

namespace Frame

/-- What begins a list or record. -/
def opening : Frame → Char
  | list => '['
  | record => '\x7b'

/-- What ends a list or record. -/
def closing : Frame → Char
  | list => ']'
  | record => '\x7d'

/-- How a value stands in a list or, under any key, in a record. -/
def Holds (v i : List Char) : Frame → Prop
  | list => Pads v i
  | record => Keyed (Between Loose) v i

end Frame

/-- The text is a value, of any kind. -/
inductive Value : List Char → Prop
  | null : Value ['n', 'u', 'l', 'l']
  | true : Value ['t', 'r', 'u', 'e']
  | false : Value ['f', 'a', 'l', 's', 'e']
  | text {v : List Char} : Between Loose v → Value v
  | number {v : List Char} : NumberText v → Value v
  | nested {frame : Frame} {vs is : List (List Char)} {v : List Char} : (∀ v ∈ vs, Value v) →
      List.Forall₂ (frame.Holds · ·) vs is → Enclosed frame.opening frame.closing is v → Value v

/-! ## Typed values -/

/-- A list is written: its items, each in one of the ways that it may be written. -/
def Listed {α : Type*} (P : α → List Char → Prop) (as : List α) (v : List Char) : Prop :=
  ∃ is, List.Forall₂ (fun a i => ∃ w, P a w ∧ Pads w i) as is ∧ Enclosed '[' ']' is v

/-- A field of a record: its key, whether it may be left out, and how its value may be written. -/
structure Field where
  key : String
  mayLack : Prop
  value : List Char → Prop

namespace Field

/-- A field that is always written. -/
def required (key : String) (value : List Char → Prop) : Field := ⟨key, False, value⟩

/-- A field that may be left out if it has its default. -/
def defaulted {α : Type} (key : String) (default a : α) (P : α → List Char → Prop) : Field :=
  ⟨key, a = default, P a⟩

@[simp] theorem key_required (key : String) (P : List Char → Prop) :
    (required key P).key = key := rfl

@[simp] theorem key_defaulted {α : Type} (key : String) (default a : α)
    (P : α → List Char → Prop) : (defaulted key default a P).key = key := rfl

end Field

/-- The members of a record, after those with the keys `seen`: each field once or, if it may be left
out, not at all, in any order, and between them anything under other keys. -/
inductive Members (fields : List Field) : List String → List (List Char) → Prop
  | done {seen : List String} : (∀ f ∈ fields, f.key ∉ seen → f.mayLack) → Members fields seen []
  | known {seen : List String} {f : Field} {v m : List Char} {ms : List (List Char)} : f ∈ fields →
      f.key ∉ seen → f.value v → Keyed (Quoted f.key) v m → Members fields (f.key :: seen) ms →
      Members fields seen (m :: ms)
  | unknown {seen : List String} {key : String} {v m : List Char} {ms : List (List Char)} :
      (∀ f ∈ fields, f.key ≠ key) → Value v → Keyed (Quoted key) v m → Members fields seen ms →
      Members fields seen (m :: ms)

/-- A record is written: as one, or as a list of its fields in their order, of which the last may be
left off if they may be left out. -/
inductive Recorded (fields : List Field) (v : List Char) : Prop
  | record {ms : List (List Char)} : Members fields [] ms → Enclosed '\x7b' '\x7d' ms v →
      Recorded fields v
  | list {kept dropped : List Field} : fields = kept ++ dropped → (∀ f ∈ dropped, f.mayLack) →
      Listed Field.value kept v → Recorded fields v

/-- The name of a variant is written: as a text, or as the only key of a record, over null. -/
inductive Named (name : String) : List Char → Prop
  | text {v : List Char} : Quoted name v → Named name v
  | record {m v : List Char} : Keyed (Quoted name) ['n', 'u', 'l', 'l'] m →
      Enclosed '\x7b' '\x7d' [m] v → Named name v

/-- Something or nothing is written. -/
inductive Nullable {α : Type} (P : α → List Char → Prop) : Option α → List Char → Prop
  | null : Nullable P none ['n', 'u', 'l', 'l']
  | some {a : α} {v : List Char} : P a v → Nullable P (some a) v

/-- True or false is written. -/
inductive Flag : Bool → List Char → Prop
  | true : Flag true ['t', 'r', 'u', 'e']
  | false : Flag false ['f', 'a', 'l', 's', 'e']

end Plant.Json
