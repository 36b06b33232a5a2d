import Mathlib
import Plant.Group
import Plant.Proofs.Number.Numeral
import Plant.Proofs.Related
import Plant.Proofs.Text.Words

/-!
# Members of groups

Which names a group has as its members is told word by word: a word contributes a name if it is a
number that an object of an admitted level is registered under, and nothing otherwise. Neither the
words around it nor the number of times that it stands there matter.

Results:
1. `word64?_eq_some_iff`: which texts are numbers.
2. `member?_eq_some_iff`: which words stand for members.
3. `resolves_iff`, `merged_words`: the names that words contribute, under one admission and under
   several.
4. `memberNames_exact`: the names of the members of a group.
-/
namespace Plant

/-! ## Numbers -/

namespace Number

/-- The text is the number in decimal digits, with any number of zeros in front, and before them a
plus sign or nothing. -/
inductive Denotes : List Char → UInt64 → Prop
  | digits {ds : List Char} {n : UInt64} : ds ≠ [] → (∀ c ∈ ds, c.isDigit = true) →
      Nat.ofDigitChars 10 ds 0 = n.toNat → Denotes ds n
  | plus {ds : List Char} {n : UInt64} : ds ≠ [] → (∀ c ∈ ds, c.isDigit = true) →
      Nat.ofDigitChars 10 ds 0 = n.toNat → Denotes ('+' :: ds) n

variable {cs : List Char} {n : UInt64}

theorem word_of_natural?_iff :
    ((natural? cs).bind fun i => if i < UInt64.size then some (UInt64.ofNat i) else none) = some n ↔
      cs ≠ [] ∧ (∀ c ∈ cs, c.isDigit = true) ∧ Nat.ofDigitChars 10 cs 0 = n.toNat := by
  have fits (i : Nat) : (if i < UInt64.size then some (UInt64.ofNat i) else none) = some n ↔
      i = n.toNat := by
    rw [Option.ite_none_right_eq_some, Option.some.injEq]
    constructor
    · rintro ⟨small, rfl⟩
      exact (UInt64.toNat_ofNat_of_lt' small).symm
    · rintro rfl
      exact ⟨n.toNat_lt_size, UInt64.ofNat_toNat⟩
  rw [natural?, ← and_assoc, ← List.all_eq_true]
  split
  case isTrue h => rw [Option.bind_some, fits, and_iff_right h, ofDigits]
  case isFalse h => exact iff_of_false (by simp) fun h' => h h'.1

theorem denotes_iff : Denotes cs n ↔ dropPlus cs ≠ [] ∧ (∀ c ∈ dropPlus cs, c.isDigit = true) ∧
    Nat.ofDigitChars 10 (dropPlus cs) 0 = n.toNat := by
  constructor
  · intro h
    cases h with
    | plus hne hds hn => exact ⟨hne, hds, hn⟩
    | digits hne hds hn =>
      -- a text of digits has no sign to drop
      have whole : dropPlus cs = cs := by
        unfold dropPlus
        split
        · exact absurd (hds '+' List.mem_cons_self) (by decide)
        · rfl
      rw [whole]
      exact ⟨hne, hds, hn⟩
  · unfold dropPlus
    split
    · exact fun ⟨hne, hds, hn⟩ => .plus hne hds hn
    · exact fun ⟨hne, hds, hn⟩ => .digits hne hds hn

theorem word64?_eq_some_iff {s : String} : word64? s = some n ↔ Denotes s.toList n := by
  rw [word64?, word_of_natural?_iff, denotes_iff]

theorem denotes_decimal (n : UInt64) : Denotes (decimal n.toNat).toList n :=
  .digits (toList_decimal_ne_nil _) (fun _ => isDigit_of_mem_decimal) (ofDigits_decimal _)

end Number

/-! ## What words contribute -/

/-- Objects whose level has that number are admitted. -/
inductive Admission.Allows : Admission → Int32 → Prop
  | unit : Allows .units 1
  | aggregate : Allows .aggregates 2
  | unitOfAll : Allows .all 1
  | aggregateOfAll : Allows .all 2
  | fallback : Allows .fallback 2

namespace Group

/-- The word contributes that name: it is a number, and under it an object of that name and of an
admitted level is registered. -/
def Contributes (registry : Registry) (a : Admission) (word : List Char) (name : String) : Prop :=
  ∃ number object, Number.Denotes word number ∧ registry.find? number = some object ∧
    a.Allows object.level ∧ object.qualifiedName = name

/-- The words contribute those names, each at most one, in their order. -/
inductive Resolves (registry : Registry) (a : Admission) : List (List Char) → List String → Prop
  | nil : Resolves registry a [] []
  | member {word : List Char} {name : String} {words : List (List Char)} {names : List String} :
      Contributes registry a word name → Resolves registry a words names →
      Resolves registry a (word :: words) (name :: names)
  | other {word : List Char} {words : List (List Char)} {names : List String} :
      (∀ name, ¬ Contributes registry a word name) → Resolves registry a words names →
      Resolves registry a (word :: words) names

/-- Of the lists of names the first is made of the other two, each in its order: what a word
contributes to the first it contributes to exactly one of the two, and the other way round. -/
inductive Merged (registry : Registry) :
    List (List Char) → List String → List String → List String → Prop
  | nil : Merged registry [] [] [] []
  | unit {word : List Char} {name : String} {words : List (List Char)}
      {all units aggregates : List String} :
      Contributes registry .all word name → Contributes registry .units word name →
      (∀ name, ¬ Contributes registry .aggregates word name) →
      Merged registry words all units aggregates →
      Merged registry (word :: words) (name :: all) (name :: units) aggregates
  | aggregate {word : List Char} {name : String} {words : List (List Char)}
      {all units aggregates : List String} :
      Contributes registry .all word name → Contributes registry .aggregates word name →
      (∀ name, ¬ Contributes registry .units word name) →
      Merged registry words all units aggregates →
      Merged registry (word :: words) (name :: all) units (name :: aggregates)
  | neither {word : List Char} {words : List (List Char)} {all units aggregates : List String} :
      (∀ name, ¬ Contributes registry .all word name) →
      (∀ name, ¬ Contributes registry .units word name) →
      (∀ name, ¬ Contributes registry .aggregates word name) →
      Merged registry words all units aggregates →
      Merged registry (word :: words) all units aggregates

namespace MemberLemmas

variable {registry : Registry} {a : Admission} {word : List Char} {words : List (List Char)}

theorem admits_iff (r : Registered) :
    (∃ l, r.level? = some l ∧ a.admits l = true) ↔ a.Allows r.level := by
  constructor
  · rintro ⟨l, hl, ha⟩
    have number : l.number = r.level := by simpa using List.find?_some hl
    rw [← number]
    cases a <;> cases l <;> first | constructor | cases ha
  · rcases r with ⟨eplanName, number, level⟩
    intro h
    cases h with
    | unit | unitOfAll => exact ⟨.unit, rfl, rfl⟩
    | aggregate | aggregateOfAll | fallback => exact ⟨.aggregate, rfl, rfl⟩

theorem member?_eq_some_iff {word : String} {r : Registered} :
    member? registry a word = some r ↔
      ∃ number, Number.Denotes word.toList number ∧ registry.find? number = some r ∧
        a.Allows r.level := by
  simp only [member?, Option.bind_eq_bind, Option.bind_eq_some_iff, Number.word64?_eq_some_iff,
    Option.ite_none_right_eq_some, Option.some.injEq]
  constructor
  · rintro ⟨number, hnumber, object, hobject, level, hlevel, hadmits, rfl⟩
    exact ⟨number, hnumber, hobject, (admits_iff object).mp ⟨level, hlevel, hadmits⟩⟩
  · rintro ⟨number, hnumber, hobject, hallows⟩
    obtain ⟨level, hlevel, hadmits⟩ := (admits_iff r).mpr hallows
    exact ⟨number, hnumber, r, hobject, level, hlevel, hadmits, rfl⟩

/-- What the word contributes, found by the steps that find a member. -/
def contribution? (registry : Registry) (a : Admission) (word : List Char) : Option String :=
  (member? registry a (String.ofList word)).map Registered.qualifiedName

theorem contribution?_eq_some_iff {name : String} :
    contribution? registry a word = some name ↔ Contributes registry a word name := by
  rw [contribution?, Option.map_eq_some_iff]
  simp only [member?_eq_some_iff, String.toList_ofList]
  constructor
  · rintro ⟨object, ⟨number, hnumber, hobject, hallows⟩, rfl⟩
    exact ⟨number, object, hnumber, hobject, hallows, rfl⟩
  · rintro ⟨number, object, hnumber, hobject, hallows, rfl⟩
    exact ⟨object, ⟨number, hnumber, hobject, hallows⟩, rfl⟩

theorem contribution?_eq_none_iff :
    contribution? registry a word = none ↔ ∀ name, ¬ Contributes registry a word name := by
  simp only [← contribution?_eq_some_iff]
  exact Option.eq_none_iff_forall_ne_some

theorem memberNames_eq (registry : Registry) (g : Group) :
    g.memberNames registry =
      (Text.splitBlanks g.value.toList).filterMap (contribution? registry g.admission) := by
  rw [memberNames, Text.words, List.filterMap_map]
  rfl

/-- Under one registry and one admission words contribute one list of names. -/
theorem resolves_iff {names : List String} :
    Resolves registry a words names ↔ names = words.filterMap (contribution? registry a) := by
  constructor
  · intro h
    induction h with
    | nil => rfl
    | member hname _ ih => rw [List.filterMap_cons_some (contribution?_eq_some_iff.mpr hname), ih]
    | other hnone _ ih => rw [List.filterMap_cons_none (contribution?_eq_none_iff.mpr hnone), ih]
  · rintro rfl
    induction words with
    | nil => exact .nil
    | cons word words ih =>
      cases hword : contribution? registry a word with
      | none =>
        rw [List.filterMap_cons_none hword]
        exact .other (contribution?_eq_none_iff.mp hword) ih
      | some name =>
        rw [List.filterMap_cons_some hword]
        exact .member (contribution?_eq_some_iff.mp hword) ih

/-! ## Admissions compared -/

theorem contributes_all_iff {name : String} : Contributes registry .all word name ↔
    Contributes registry .units word name ∨ Contributes registry .aggregates word name := by
  constructor
  · rintro ⟨number, ⟨eplanName, techNumber, level⟩, hnumber, hobject, hallows, hname⟩
    cases hallows with
    | unitOfAll => exact .inl ⟨number, _, hnumber, hobject, .unit, hname⟩
    | aggregateOfAll => exact .inr ⟨number, _, hnumber, hobject, .aggregate, hname⟩
  · rintro (⟨number, ⟨eplanName, techNumber, level⟩, hnumber, hobject, hallows, hname⟩ |
      ⟨number, ⟨eplanName, techNumber, level⟩, hnumber, hobject, hallows, hname⟩)
    · cases hallows
      exact ⟨number, _, hnumber, hobject, .unitOfAll, hname⟩
    · cases hallows
      exact ⟨number, _, hnumber, hobject, .aggregateOfAll, hname⟩

/-- A word stands for one object, and that has one level. -/
theorem not_contributes_aggregates {name name' : String}
    (h : Contributes registry .units word name) : ¬ Contributes registry .aggregates word name' := by
  rintro ⟨number', object', hnumber', hobject', hallows', -⟩
  obtain ⟨number, ⟨eplanName, techNumber, level⟩, hnumber, hobject, hallows, -⟩ := h
  rw [← String.toList_ofList (l := word), ← Number.word64?_eq_some_iff] at hnumber hnumber'
  cases hnumber.symm.trans hnumber'
  cases hobject.symm.trans hobject'
  cases hallows
  cases hallows'

theorem merged_words (registry : Registry) (words : List (List Char)) :
    Merged registry words (words.filterMap (contribution? registry .all))
      (words.filterMap (contribution? registry .units))
      (words.filterMap (contribution? registry .aggregates)) := by
  induction words with
  | nil => exact .nil
  | cons word words ih =>
    cases hunits : contribution? registry .units word with
    | some name =>
      have unit := contribution?_eq_some_iff.mp hunits
      have all := contributes_all_iff.mpr (.inl unit)
      have neither (name' : String) : ¬ Contributes registry .aggregates word name' :=
        not_contributes_aggregates unit
      rw [List.filterMap_cons_some (contribution?_eq_some_iff.mpr all),
        List.filterMap_cons_some hunits,
        List.filterMap_cons_none (contribution?_eq_none_iff.mpr neither)]
      exact .unit all unit neither ih
    | none =>
      have noUnit := contribution?_eq_none_iff.mp hunits
      rw [List.filterMap_cons_none hunits]
      cases haggregates : contribution? registry .aggregates word with
      | some name =>
        have aggregate := contribution?_eq_some_iff.mp haggregates
        have all := contributes_all_iff.mpr (.inr aggregate)
        rw [List.filterMap_cons_some (contribution?_eq_some_iff.mpr all),
          List.filterMap_cons_some haggregates]
        exact .aggregate all aggregate noUnit ih
      | none =>
        have noAggregate := contribution?_eq_none_iff.mp haggregates
        have nothing (name : String) : ¬ Contributes registry .all word name := fun h =>
          (contributes_all_iff.mp h).elim (noUnit name) (noAggregate name)
        rw [List.filterMap_cons_none (contribution?_eq_none_iff.mpr nothing),
          List.filterMap_cons_none haggregates]
        exact .neither nothing noUnit noAggregate ih

/-! ## Written numbers -/

/-- The number written in decimal. -/
def numberWord (number : UInt64) : List Char := (Number.decimal number.toNat).toList

theorem resolves_numberWords {numbers : List UInt64} {objects : List Registered}
    (h : List.Forall₂ (fun number object => registry.find? number = some object ∧
      a.Allows object.level) numbers objects) :
    Resolves registry a (numbers.map numberWord) (objects.map Registered.qualifiedName) := by
  induction h with
  | nil => exact .nil
  | @cons number object _ _ hobject _ ih =>
    exact .member ⟨number, object, Number.denotes_decimal number, hobject.1, hobject.2, rfl⟩ ih

theorem numberWord_visible (number : UInt64) :
    numberWord number ≠ [] ∧ ∀ c ∈ numberWord number, Text.isBlank c = false := by
  exact ⟨Number.toList_decimal_ne_nil _,
    fun c hc => (Number.numeric_decimal number.toNat c hc).isBlank_eq⟩

end MemberLemmas

open MemberLemmas

/-- The members of a group are what the words of its value contribute, in that order: every text has
its words in one way only, and they resolve to one list of names. So texts with blanks between them
resolve one after the other; what nothing known was asked for admits is what aggregates are; the
members admitted by all are merged from units and aggregates; and numbers of admitted objects that
are written out with blanks between them resolve to those objects. -/
theorem memberNames_exact (registry : Registry) (g : Group) :
    (∃ words, (∀ words', Text.Separated g.value.toList words' ↔ words' = words) ∧
        (∀ names, Resolves registry g.admission words names ↔ names = g.memberNames registry) ∧
        Merged registry words ({ g with admission := .all }.memberNames registry)
          ({ g with admission := .units }.memberNames registry)
          ({ g with admission := .aggregates }.memberNames registry)) ∧
      (∀ v blanks u : String, (∀ c ∈ blanks.toList, Text.isBlank c = true) → blanks ≠ "" →
        (g.setValue (v ++ blanks ++ u)).memberNames registry =
          (g.setValue v).memberNames registry ++ (g.setValue u).memberNames registry) ∧
      { g with admission := .fallback }.memberNames registry =
        { g with admission := .aggregates }.memberNames registry ∧
      ∀ numbers objects, List.Forall₂ (fun number object => registry.find? number = some object ∧
          g.admission.Allows object.level) numbers objects →
        (∀ value : String,
          Text.Separated value.toList (numbers.map fun n => (Number.decimal n.toNat).toList) →
          (g.setValue value).memberNames registry = objects.map Registered.qualifiedName) ∧
        ∀ blanks : String, (∀ c ∈ blanks.toList, Text.isBlank c = true) → blanks ≠ "" →
          (g.setValue (blanks.intercalate (numbers.map fun n => Number.decimal n.toNat))).memberNames
            registry = objects.map Registered.qualifiedName := by
  refine ⟨⟨Text.splitBlanks g.value.toList, ?_, ?_, ?_⟩, ?_, rfl, ?_⟩
  · exact fun words' => Text.separated_iff.trans eq_comm
  · intro names
    rw [resolves_iff, memberNames_eq]
  · simp only [memberNames_eq]
    exact merged_words registry _
  · intro v blanks u hblanks hne
    rw [memberNames, setValue, Text.words_append hblanks hne, List.filterMap_append]
    rfl
  · intro numbers objects h
    have printed (value : String) (hvalue : Text.Separated value.toList (numbers.map numberWord)) :
        (g.setValue value).memberNames registry = objects.map Registered.qualifiedName := by
      rw [memberNames_eq]
      show (Text.splitBlanks value.toList).filterMap _ = _
      rw [Text.separated_iff.mp hvalue]
      exact (resolves_iff.mp (resolves_numberWords h)).symm
    refine ⟨printed, fun blanks hblanks hne => printed _ ?_⟩
    rw [String.toList_intercalate, List.map_map]
    refine Text.separated_intercalate hblanks (fun h => hne (String.toList_eq_nil_iff.mp h)) ?_
    intro w hw
    obtain ⟨number, -, rfl⟩ := List.mem_map.mp hw
    exact numberWord_visible number

/-- A tank, a pump and an object of another level under the greatest number. -/
def site : Registry :=
  ((Registry.empty.insert 1 ⟨"TANK", 1, 1⟩).insert 2 ⟨"PUMP", 1, 2⟩).insert 18446744073709551615
    ⟨"YARD", 3, 3⟩

/-- A group without members that admits units and aggregates. -/
def attached : Group := .new "attached_objects" "Attached" .all none

theorem memberNames_exact_attached :
    (attached.setValue ("x 18446744073709551615 +2" ++ "\t\u00a0" ++ "001 2")).memberNames site =
        ["prg.pump1"] ++ ["prg.tank1", "prg.pump1"] ∧
      (attached.setValue ("\n ".intercalate ["2", "1", "2"])).memberNames site =
        ["prg.pump1", "prg.tank1", "prg.pump1"] := by
  obtain ⟨-, append, -, printed⟩ := memberNames_exact site attached
  have blanks : ∀ c ∈ "\t\u00a0".toList, Text.isBlank c = true := List.all_eq_true.mp rfl
  have first : (attached.setValue "x 18446744073709551615 +2").memberNames site = ["prg.pump1"] := by
    cbv
  have second : (attached.setValue "001 2").memberNames site = ["prg.tank1", "prg.pump1"] := by cbv
  have tank : site.find? 1 = some ⟨"TANK", 1, 1⟩ := by cbv
  have pump : site.find? 2 = some ⟨"PUMP", 1, 2⟩ := by cbv
  refine ⟨?_, ?_⟩
  · rw [append _ _ _ blanks (by decide), first, second]
  · exact (printed [2, 1, 2] _ (.cons ⟨pump, .aggregateOfAll⟩ (.cons ⟨tank, .unitOfAll⟩
      (.cons ⟨pump, .aggregateOfAll⟩ .nil)))).2 _ (List.all_eq_true.mp rfl) (by decide)

end Group

end Plant
