import Plant.Proofs.Lua.Sections
import Plant.Proofs.Related

/-!
# What the information about an object depends on

The information about an object is drawn from its level, its groups, and whether it fills or pumps;
from the registered objects whose numbers are written in its groups, and for a unit from the process
cell. Nothing else of the object or of the registry can be seen in it. What is written for a unit
comes first, and neither it nor what is written for the connections has an influence on the other.

Results:
1. `Object.SameSources`, `Object.mentioned`, `Registry.seen?`: what the information is drawn from.
2. `find?_insertAll`: what is found under a number after a run of registrations.
3. `objectInfo_dependence`: the information depends on nothing else.
-/
namespace Plant

/-! ## Sources -/

/-- What is looked at in a group: its name, its value and the levels that it admits. -/
def Group.source (g : Group) : String × String × List Level :=
  (g.luaName, g.value, g.admission.levels)

/-- The numbers that are written in the values of the groups. -/
def Object.mentioned (o : Object) : List UInt64 :=
  o.groups.flatMap fun g => (Text.words g.value).filterMap Number.word64?

/-- Objects that agree on what is looked at in an object. -/
structure Object.SameSources (x y : Object) : Prop where
  level : x.level = y.level
  groups : x.groups.map Group.source = y.groups.map Group.source
  line : (∃ op ∈ x.operations, op.luaName = "FILL" ∨ op.luaName = "PUMPING") ↔
    ∃ op ∈ y.operations, op.luaName = "FILL" ∨ op.luaName = "PUMPING"

namespace Registry

/-- What is looked at in the object under a number: its name in generated code and its level. -/
def seen? (number : UInt64) (r : Registry) : Option (String × Option Level) :=
  (r.find? number).map fun object => (object.qualifiedName, object.level?)

/-- Puts objects under global numbers, one after the other. -/
def insertAll (r : Registry) (registrations : List (UInt64 × Registered)) : Registry :=
  registrations.foldl (fun r a => r.insert a.1 a.2) r

/-! ## Registrations -/

theorem find?_insert (number number' : UInt64) (object : Registered) (r : Registry) :
    (r.insert number object).find? number' =
      if number = number' then some object else r.find? number' := by
  rw [find?, insert, Std.HashMap.getElem?_insert]
  simp only [beq_iff_eq]
  rfl

/-- What is found under a number depends only on the registrations under it. -/
theorem find?_insertAll {number : UInt64} (registrations : List (UInt64 × Registered))
    {r s : Registry} (h : r.find? number = s.find? number) :
    (r.insertAll registrations).find? number =
      (s.insertAll (registrations.filter (·.1 == number))).find? number := by
  -- The registries go different ways, as only one of them sees the other registrations; they keep
  -- agreeing on the number.
  induction registrations generalizing r s with
  | nil => exact h
  | cons a registrations ih =>
    rw [List.filter_cons]
    split
    case isTrue => exact ih (by rw [find?_insert, find?_insert, h])
    case isFalse other =>
      have other : a.1 ≠ number := fun same => other (beq_iff_eq.mpr same)
      exact ih (by rw [find?_insert, if_neg other, h])

theorem find?_insertAll_of_filter {number : UInt64} {as bs : List (UInt64 × Registered)}
    (h : as.filter (·.1 == number) = bs.filter (·.1 == number)) (r : Registry) :
    (r.insertAll as).find? number = (r.insertAll bs).find? number := by
  rw [find?_insertAll as rfl, find?_insertAll bs rfl, h]

/-- What is found under a number is not changed by registrations under other numbers. -/
theorem find?_insertAll_of_ne {number : UInt64} {as : List (UInt64 × Registered)}
    (h : ∀ a ∈ as, a.1 ≠ number) (r : Registry) :
    (r.insertAll as).find? number = r.find? number := by
  have none : as.filter (·.1 == number) = [] := by
    rw [List.filter_eq_nil_iff]
    exact fun a ha same => h a ha (beq_iff_eq.mp same)
  rw [find?_insertAll as rfl, none]
  rfl

theorem processCell_insertAll (as : List (UInt64 × Registered)) (r : Registry) :
    (r.insertAll as).processCell = r.processCell := by
  induction as generalizing r with
  | nil => rfl
  | cons a as ih => exact ih (r.insert a.1 a.2)

theorem seen?_congr {number : UInt64} {r s : Registry} (h : r.find? number = s.find? number) :
    r.seen? number = s.seen? number := by
  rw [seen?, seen?, h]

end Registry

namespace Lua

variable {r s : Registry} {x y : Object}

namespace DependenceLemmas

/-! ## Groups -/

/-- The name of a member, from what is looked at in the object under its number. -/
theorem map_member? (r : Registry) (a : Admission) (word : String) :
    (Group.member? r a word).map Registered.qualifiedName =
      (Number.word64? word).bind fun number => (r.seen? number).bind fun seen =>
        seen.2.bind fun level => if a.levels.contains level then some seen.1 else none := by
  rw [Group.member?]
  cases Number.word64? word with
  | none => rfl
  | some number =>
    simp only [Option.bind_eq_bind, Option.bind_some, Registry.seen?]
    cases r.find? number with
    | none => rfl
    | some object =>
      simp only [Option.bind_some, Option.map_some]
      cases object.level? with
      | none => rfl
      | some level => exact apply_ite (Option.map Registered.qualifiedName) _ _ _

theorem source_eq_iff {g h : Group} : g.source = h.source ↔
    g.luaName = h.luaName ∧ g.value = h.value ∧ g.admission.levels = h.admission.levels := by
  simp [Group.source]

theorem memberNames_congr {g h : Group} (same : g.source = h.source)
    (agree : ∀ number ∈ (Text.words g.value).filterMap Number.word64?,
      r.seen? number = s.seen? number) :
    g.memberNames r = h.memberNames s := by
  obtain ⟨-, value, levels⟩ := source_eq_iff.mp same
  rw [Group.memberNames, Group.memberNames, ← value]
  refine List.filterMap_congr fun word hword => ?_
  rw [map_member?, map_member?, levels]
  refine Option.bind_congr fun number hnumber => ?_
  rw [agree number (List.mem_filterMap.mpr ⟨word, hword, hnumber⟩)]

theorem groupTable?_congr (object : String) {g h : Group} (same : g.source = h.source)
    (agree : ∀ number ∈ (Text.words g.value).filterMap Number.word64?,
      r.seen? number = s.seen? number) :
    groupTable? object r g = groupTable? object s h := by
  obtain ⟨luaName, value, -⟩ := source_eq_iff.mp same
  rw [groupTable?, groupTable?, memberNames_congr same agree, Group.isInert, Group.isInert, luaName,
    value]

/-! ## Objects -/

theorem isLine_congr (h : x.SameSources y) : isLine x = isLine y := by
  have groups : x.groups = [] ↔ y.groups = [] := by
    rw [← List.map_eq_nil_iff, h.groups, List.map_eq_nil_iff]
  rw [Bool.eq_iff_iff, SectionLemmas.isLine_iff, SectionLemmas.isLine_iff, h.line, Ne, Ne, groups]

theorem connectionLines_congr (object : String) (h : x.SameSources y)
    (agree : ∀ number ∈ x.mentioned, r.seen? number = s.seen? number) :
    connectionLines object r x = connectionLines object s y := by
  have tables : x.groups.filterMap (groupTable? object r) =
      y.groups.filterMap (groupTable? object s) := by
    have same : List.Forall₂ Eq (x.groups.map Group.source) (y.groups.map Group.source) := by
      rw [List.forall₂_eq_eq_eq]
      exact h.groups
    -- Each group brings the numbers of its own value along.
    have agree : ∀ g ∈ x.groups, ∀ number ∈ (Text.words g.value).filterMap Number.word64?,
        r.seen? number = s.seen? number :=
      fun g hg number hnumber => agree number (List.mem_flatMap.mpr ⟨g, hg, hnumber⟩)
    rw [List.forall₂_map_left_iff, List.forall₂_map_right_iff] at same
    exact filterMap_eq_of_forall₂ (fun g h gh => groupTable?_congr object gh.2 gh.1)
      ((List.forall₂_and_left _ _).mpr ⟨agree, same⟩)
  rw [connectionLines, connectionLines, tables, isLine_congr h]

theorem unitLines_congr (object : String) {master master' : Option Registered}
    (h : master.map Registered.qualifiedName = master'.map Registered.qualifiedName) :
    unitLines object master = unitLines object master' := by
  have line (master : Option Registered) : master.map (masterLine object) =
      (master.map Registered.qualifiedName).map (⟨0, object ++ ".master = " ++ ·⟩) := by
    rw [Option.map_map]
    rfl
  rw [unitLines, unitLines, line, line, h]

theorem infoLines_unit (object : String) (r : Registry) (x : Object) :
    infoLines object r { x with level := 1 } =
      unitLines object r.processCell ++ connectionLines object r x := rfl

theorem infoLines_of_ne_unit (object : String) (r : Registry) (x : Object)
    (h : x.level ≠ 1) : infoLines object r x = connectionLines object r x := by
  rw [infoLines, if_neg, List.nil_append]
  simpa [Object.isLevel, Level.number] using h

theorem infoLines_congr (object : String) (h : x.SameSources y)
    (agree : ∀ number ∈ x.mentioned, r.seen? number = s.seen? number)
    (cell : x.level = 1 →
      r.processCell.map Registered.qualifiedName = s.processCell.map Registered.qualifiedName) :
    infoLines object r x = infoLines object s y := by
  rw [infoLines, infoLines, connectionLines_congr object h agree, Object.isLevel, Object.isLevel,
    h.level]
  split
  case isTrue unit =>
    rw [unitLines_congr object (cell (h.level.trans (beq_iff_eq.mp unit)))]
  case isFalse => rfl

end DependenceLemmas

open DependenceLemmas

/-! ## Dependence -/

/-- The information about an object is the same for objects that agree on what is looked at in an
object, and for registries that agree on what is looked at under the numbers that the object
mentions and, for a unit, in the process cell. So registrations under other numbers do not change
it, nor does the order of registrations under different numbers. The text for a unit is one that
depends on the process cell only, and then the text that the same object has at any other level,
whatever the process cell is. -/
theorem objectInfo_dependence (object indent : String) (r : Registry) (x : Object) :
    (∀ s y, x.SameSources y → (∀ number ∈ x.mentioned, r.seen? number = s.seen? number) →
      (x.level = 1 →
        r.processCell.map Registered.qualifiedName = s.processCell.map Registered.qualifiedName) →
      objectInfo object indent r x = objectInfo object indent s y) ∧
    (∀ added, (∀ a ∈ added, a.1 ∉ x.mentioned) →
      objectInfo object indent (r.insertAll added) x = objectInfo object indent r x) ∧
    (∀ as bs : List (UInt64 × Registered),
      (∀ number, as.filter (·.1 == number) = bs.filter (·.1 == number)) →
      objectInfo object indent (r.insertAll as) x = objectInfo object indent (r.insertAll bs) x) ∧
    ∀ level, level ≠ 1 →
      objectInfo object indent r { x with level := 1 } =
        write indent (unitLines object r.processCell) ++
          objectInfo object indent r { x with level } ∧
      ∀ level' cell, level' ≠ 1 →
        objectInfo object indent (r.setProcessCell cell) { x with level := level' } =
          objectInfo object indent r { x with level } := by
  have same : x.SameSources x := ⟨rfl, rfl, Iff.rfl⟩
  refine ⟨fun s y h agree cell => ?two, fun added h => ?added, fun as bs h => ?order,
    fun level other => ⟨?unit, fun level' cell other' => ?others⟩⟩
  case two => rw [objectInfo, objectInfo, infoLines_congr object h agree cell]
  case added =>
    refine congrArg (write indent) (infoLines_congr object same (fun number mentioned => ?_) ?_)
    · refine Registry.seen?_congr (Registry.find?_insertAll_of_ne (fun a ha eq => ?_) r)
      exact h a ha (eq ▸ mentioned)
    · rw [Registry.processCell_insertAll]
      exact fun _ => rfl
  case order =>
    refine congrArg (write indent) (infoLines_congr object same (fun number _ => ?_) ?_)
    · exact Registry.seen?_congr (Registry.find?_insertAll_of_filter (h number) r)
    · rw [Registry.processCell_insertAll, Registry.processCell_insertAll]
      exact fun _ => rfl
  case unit =>
    rw [objectInfo, objectInfo, infoLines_unit, write_append, infoLines_of_ne_unit _ _ _ other]
    rfl
  case others =>
    rw [objectInfo, objectInfo, infoLines_of_ne_unit _ _ _ other', infoLines_of_ne_unit _ _ _ other]
    rfl

/-- A unit that fills; the group admits aggregates because they are asked for. -/
def filler : Object :=
  (Object.new ⟨1⟩ (some ⟨3⟩)).editAll
    [.setName "Tank", .setLevel 1, .addOperation "FILL" "Filling" 1,
      .addGroup "lines" "Lines" .aggregates, .setGroup "lines" "7 +8"]

/-- A unit that pumps; the group admits aggregates because nothing known was asked for. -/
def pump : Object :=
  (Object.new ⟨2⟩ none).editAll
    [.setLevel 1, .addGroup "lines" "Pipes" .fallback, .setGroup "lines" "7 +8",
      .addEquipment "valve" "Valve" "V1", .addOperation "WASH" "Washing" 2,
      .addOperation "PUMPING" "Pumping" 3]

/-- An aggregate and an object whose level is unknown. -/
def yard : Registry := Registry.empty.insertAll [(7, ⟨"Line", 1, 2⟩), (8, ⟨"Hose", 1, 5⟩)]

/-- Objects that cannot be told from those in generated code, in the other order. -/
def twins : List (UInt64 × Registered) := [(8, ⟨"HOSE", 1, 6⟩), (7, ⟨"LINE", 1, 2⟩)]

/-- The texts for the unit that fills and the one that pumps are the same; another registration, the
other order and, at another level, the process cell do not change them. -/
theorem objectInfo_dependence_filler :
    objectInfo "prg.tank1" "\t" yard filler =
        objectInfo "prg.tank1" "\t" (Registry.empty.insertAll twins) pump ∧
      objectInfo "prg.tank1" "\t" (yard.insertAll [(9, ⟨"Line", 2, 2⟩)]) filler =
        objectInfo "prg.tank1" "\t" yard filler ∧
      objectInfo "prg.tank1" "\t" (yard.insertAll twins) filler =
        objectInfo "prg.tank1" "\t" (yard.insertAll twins.reverse) filler ∧
      objectInfo "prg.tank1" "\t" yard filler = write "\t" (unitLines "prg.tank1" none) ++
        objectInfo "prg.tank1" "\t" (yard.setProcessCell (some ⟨"Cell", 1, 0⟩))
          { filler with level := 7 } := by
  have same : filler.SameSources pump := ⟨by decide +kernel, by decide +kernel, by decide +kernel⟩
  have mentioned : filler.mentioned = [7, 8] := by decide +kernel
  have agree : ∀ number ∈ filler.mentioned,
      yard.seen? number = (Registry.empty.insertAll twins).seen? number := by
    rw [mentioned, List.forall_mem_cons, List.forall_mem_singleton]
    simp only [Registry.seen?, yard, twins, Registry.insertAll, List.foldl, Registry.find?_insert]
    decide +kernel
  have order (number : UInt64) : twins.filter (·.1 == number) =
      twins.reverse.filter (·.1 == number) := by
    by_cases eight : number = 8
    · rw [eight]
      decide
    · simp [twins, List.filter_cons, Ne.symm eight]
  obtain ⟨two, added, reordered, levels⟩ := objectInfo_dependence "prg.tank1" "\t" yard filler
  refine ⟨two _ pump same agree fun _ => rfl, added _ ?_, reordered _ _ order, ?_⟩
  · rw [mentioned]
    decide
  · obtain ⟨unit, others⟩ := levels 2 (by decide)
    rw [others 7 _ (by decide)]
    exact unit

end Lua

end Plant
