import Mathlib.Data.List.Nodup
import Mathlib.Data.Nat.Find
import Plant.Proofs.Catalog.Templates
import Plant.Proofs.Text.Blank

/-!
# Documents that make a catalog

A definition is judged by itself and by the definitions before it. A document makes a catalog
exactly if none of its definitions is faulty, and otherwise it is refused for the first one that is.
If that has several faults, a blank name counts before a repeated one, and that before an unknown
level.

Results:
1. `faulty_iff`, `diagnosis_of_check`: what is checked of one definition.
2. `templatesFrom_eq_error_iff`: the fault that is found first.
3. `ofDocument_exact`: which documents make a catalog, why the others do not, and what can be looked
   up in the catalogs that are made.
-/
namespace Plant.Catalog

/-! ## Definitions -/

/-- Behind the definitions `before`, a definition is faulty if there is nothing but blanks in its
name, if one of them has its name, or if its level is a name that is none of a level. -/
def Faulty (before : List Definition) (d : Definition) : Prop :=
  Text.trim d.name = "" ∨ (∃ e ∈ before, e.name = d.name) ∨
    ∃ s, d.level = .name s ∧ Level.ofName? s = none

/-- The fault of a definition that counts. -/
inductive Diagnosis (before : List Definition) (d : Definition) : Fault → Prop
  | emptyName : Text.trim d.name = "" → Diagnosis before d (.emptyName before.length)
  | duplicateName : Text.trim d.name ≠ "" → (∃ e ∈ before, e.name = d.name) →
      Diagnosis before d (.duplicateName d.name)
  | unknownLevel {s : String} : Text.trim d.name ≠ "" → (∀ e ∈ before, e.name ≠ d.name) →
      d.level = .name s → Level.ofName? s = none → Diagnosis before d (.unknownLevel d.name s)

/-- The definition at an index is faulty. -/
def FaultyAt (ds : List Definition) (i : Nat) : Prop := ∃ d, ds[i]? = some d ∧ Faulty (ds.take i) d

/-- The first faulty definition is the one at an index, and a fault of it is the one that counts. -/
structure FirstFault (ds : List Definition) (i : Nat) (f : Fault) : Prop where
  diagnosis : ∃ d, ds[i]? = some d ∧ Diagnosis (ds.take i) d f
  first : ∀ j < i, ¬ FaultyAt ds j

/-- The catalog has the templates that definitions define, with consecutive handles, and finds them
by their names. -/
structure Serves (c : Catalog) (handle : Handle) (ds : List Definition) : Prop where
  size : c.size = ds.length
  template : ∀ (i : Nat) (d : Definition), ds[i]? = some d → ∃ level, d.level.resolve = .ok level ∧
    c.templates[i]? = some (d.build (handle.advance i) level)
  names : c.names = ds.map (·.name)
  visible : ∀ name ∈ c.names, ∃ a ∈ name.toList, Text.isBlank a = false
  distinct : c.names.Nodup
  named : ∀ (i : Nat) (d : Definition), ds[i]? = some d → c.template? d.name = c.templates[i]?
  unnamed : ∀ name, (∀ d ∈ ds, d.name ≠ name) → c.template? name = none
  basicName : ∀ basicName, c.templateByBasicName? basicName =
    (ds.findIdx? (·.basicName == basicName)).bind (c.templates[·]?)

variable {before ds : List Definition} {d : Definition} {seen : List String} {handle : Handle}
  {f : Fault}

/-! ## One definition -/

namespace ValidationLemmas

theorem faulty_iff : Faulty before d ↔ ∃ f, Diagnosis before d f := by
  constructor
  · intro h
    by_cases blank : Text.trim d.name = ""
    · exact ⟨_, .emptyName blank⟩
    by_cases repeated : ∃ e ∈ before, e.name = d.name
    · exact ⟨_, .duplicateName blank repeated⟩
    obtain ⟨s, hs, unknown⟩ := (h.resolve_left blank).resolve_left repeated
    exact ⟨_, .unknownLevel blank (fun e he same => repeated ⟨e, he, same⟩) hs unknown⟩
  · rintro ⟨f, blank | ⟨-, repeated⟩ | ⟨-, -, hs, unknown⟩⟩
    · exact .inl blank
    · exact .inr (.inl repeated)
    · exact .inr (.inr ⟨_, hs, unknown⟩)

theorem resolve_eq_error_iff {l : LevelSpec} {s : String} :
    l.resolve = .error s ↔ l = .name s ∧ Level.ofName? s = none := by
  cases l with
  | number n => exact iff_of_false (fun h => nomatch h) (fun h => nomatch h.1)
  | name t =>
    unfold LevelSpec.resolve
    cases ht : Level.ofName? t with
    | some level =>
      simp only [ht, reduceCtorEq, LevelSpec.name.injEq, false_iff, not_and]
      rintro rfl unknown
      rw [unknown] at ht
      cases ht
    | none =>
      simp only [ht, Except.error.injEq, LevelSpec.name.injEq, iff_self_and]
      rintro rfl
      exact ht

/-- The names seen so far are those of the definitions before. -/
def Sees (seen : List String) (before : List Definition) : Prop :=
  ∀ name, name ∈ seen ↔ ∃ e ∈ before, e.name = name

theorem sees_nil : Sees [] [] := by
  intro name
  simp

theorem Sees.cons (h : Sees seen before) (d : Definition) :
    Sees (d.name :: seen) (before ++ [d]) := by
  intro name
  rw [List.mem_cons, h name]
  constructor
  · rintro (rfl | ⟨e, he, rfl⟩)
    · exact ⟨d, by simp, rfl⟩
    · exact ⟨e, by simp [he], rfl⟩
  · rintro ⟨e, he, rfl⟩
    rcases List.mem_append.mp he with he | he
    · exact .inr ⟨e, he, rfl⟩
    · rw [List.mem_singleton.mp he]
      exact .inl rfl

theorem Sees.contains_iff (h : Sees seen before) (d : Definition) :
    seen.contains d.name = true ↔ ∃ e ∈ before, e.name = d.name := by
  rw [List.contains_iff_mem]
  exact h d.name

theorem diagnosis_of_check (h : Sees seen before)
    (hf : check before.length seen d = .error f) : Diagnosis before d f := by
  unfold check at hf
  split at hf
  case isTrue blank =>
    cases hf
    exact .emptyName (String.isEmpty_iff.mp blank)
  case isFalse visible =>
    rw [String.isEmpty_iff] at visible
    split at hf
    case isTrue again =>
      cases hf
      exact .duplicateName visible ((h.contains_iff d).mp again)
    case isFalse new =>
      have new : ∀ e ∈ before, e.name ≠ d.name :=
        fun e he same => new ((h.contains_iff d).mpr ⟨e, he, same⟩)
      split at hf
      · cases hf
      · next s resolved =>
        cases hf
        obtain ⟨hs, unknown⟩ := resolve_eq_error_iff.mp resolved
        exact .unknownLevel visible new hs unknown

theorem not_faulty_of_check {level : Int32} (h : Sees seen before)
    (ok : check before.length seen d = .ok level) : ¬ Faulty before d := by
  have resolved := resolve_of_check ok
  unfold check at ok
  split at ok
  · cases ok
  next visible =>
    split at ok
    · cases ok
    next new =>
      rintro (blank | repeated | ⟨s, unknown⟩)
      · exact visible (String.isEmpty_iff.mpr blank)
      · exact new ((h.contains_iff d).mpr repeated)
      · rw [resolve_eq_error_iff.mpr unknown] at resolved
        cases resolved

theorem diagnosis_unique {g : Fault} (hf : Diagnosis before d f) (hg : Diagnosis before d g) :
    f = g := by
  cases hf <;> cases hg <;> grind

/-! ## The first fault -/

/-- The first definition that is faulty behind those before it, and its fault. -/
def FirstBehind (before ds : List Definition) (f : Fault) : Prop :=
  ∃ i d, ds[i]? = some d ∧ Diagnosis (before ++ ds.take i) d f ∧
    ∀ j < i, ∀ e, ds[j]? = some e → ¬ Faulty (before ++ ds.take j) e

theorem not_firstBehind_nil : ¬ FirstBehind before [] f := by
  rintro ⟨i, d, hd, -⟩
  cases hd

theorem firstBehind_cons_iff :
    FirstBehind before (d :: ds) f ↔
      Diagnosis before d f ∨ ¬ Faulty before d ∧ FirstBehind (before ++ [d]) ds f := by
  constructor
  · rintro ⟨i, e, he, diagnosis, first⟩
    cases i with
    | zero =>
      cases he
      rw [List.take_zero, List.append_nil] at diagnosis
      exact .inl diagnosis
    | succ i =>
      have sound : ¬ Faulty before d := by simpa using first 0 (Nat.succ_pos i) d rfl
      refine .inr ⟨sound, i, e, he, by simpa using diagnosis, fun j hj e' he' => ?_⟩
      simpa using first (j + 1) (Nat.succ_lt_succ hj) e' he'
  · rintro (diagnosis | ⟨sound, i, e, he, diagnosis, first⟩)
    · exact ⟨0, d, rfl, by simpa using diagnosis, fun j hj => absurd hj (Nat.not_lt_zero j)⟩
    · refine ⟨i + 1, e, he, by simpa using diagnosis, fun j hj e' he' => ?_⟩
      cases j with
      | zero =>
        cases he'
        simpa using sound
      | succ j => simpa using first j (Nat.lt_of_succ_lt_succ hj) e' he'

/-- Definition by definition the loop goes on until one is faulty. -/
theorem templatesFrom_eq_error_iff (h : Sees seen before) :
    templatesFrom before.length seen handle ds = .error f ↔ FirstBehind before ds f := by
  induction ds generalizing before seen handle with
  | nil => exact iff_of_false (fun h => nomatch h) not_firstBehind_nil
  | cons d ds ih =>
    rw [firstBehind_cons_iff]
    cases hd : check before.length seen d with
    | error g =>
      have diagnosis := diagnosis_of_check h hd
      rw [templatesFrom, hd]
      constructor
      · rintro ⟨⟩
        exact .inl diagnosis
      · rintro (same | ⟨sound, -⟩)
        · rw [diagnosis_unique diagnosis same]
          rfl
        · exact absurd (faulty_iff.mpr ⟨g, diagnosis⟩) sound
    | ok level =>
      have sound := not_faulty_of_check h hd
      have rest : templatesFrom (before ++ [d]).length (d.name :: seen) handle.next ds = .error f ↔
          FirstBehind (before ++ [d]) ds f := ih (h.cons d)
      rw [List.length_append, List.length_singleton] at rest
      rw [or_iff_right fun diagnosis => sound (faulty_iff.mpr ⟨f, diagnosis⟩),
        and_iff_right sound, ← rest, templatesFrom, hd]
      cases templatesFrom (before.length + 1) (d.name :: seen) handle.next ds with
      | error g => exact Iff.rfl
      | ok ts => exact iff_of_false (fun h => nomatch h) (fun h => nomatch h)

theorem firstBehind_nil_iff : FirstBehind [] ds f ↔ ∃ i, FirstFault ds i f := by
  constructor
  · rintro ⟨i, d, hd, diagnosis, first⟩
    exact ⟨i, ⟨d, hd, diagnosis⟩, fun j hj ⟨e, he, faulty⟩ => first j hj e he faulty⟩
  · rintro ⟨i, ⟨d, hd, diagnosis⟩, first⟩
    exact ⟨i, d, hd, diagnosis, fun j hj e he faulty => first j hj ⟨e, he, faulty⟩⟩

/-- If a definition is faulty, one of them is the first. -/
theorem exists_firstFault_iff : (∃ f i, FirstFault ds i f) ↔ ∃ i, FaultyAt ds i := by
  classical
  constructor
  · rintro ⟨f, i, ⟨d, hd, diagnosis⟩, -⟩
    exact ⟨i, d, hd, faulty_iff.mpr ⟨f, diagnosis⟩⟩
  · intro h
    obtain ⟨d, hd, faulty⟩ := Nat.find_spec h
    obtain ⟨f, diagnosis⟩ := faulty_iff.mp faulty
    exact ⟨f, Nat.find h, ⟨d, hd, diagnosis⟩, fun j hj => Nat.find_min h hj⟩

/-! ## Catalogs -/

theorem nodup_names (sound : ∀ i, ¬ FaultyAt ds i) : (ds.map (·.name)).Nodup := by
  rw [List.nodup_iff_getElem?_ne_getElem?]
  intro i j hij hj same
  rw [List.length_map] at hj
  rw [List.getElem?_map, List.getElem?_map, List.getElem?_eq_getElem hj,
    List.getElem?_eq_getElem (Nat.lt_trans hij hj)] at same
  refine sound j ⟨ds[j], List.getElem?_eq_getElem hj, .inr (.inl ⟨ds[i], ?_, ?_⟩)⟩
  · exact List.mem_take_iff_getElem.mpr ⟨i, by omega, rfl⟩
  · exact Option.some.inj same

/-- Among objects with different names each is found by its own. -/
theorem find?_name {os : List Object} (distinct : (os.map (·.name)).Nodup) {i : Nat} {o : Object}
    (ho : os[i]? = some o) : os.find? (·.name == o.name) = some o := by
  obtain ⟨hi, rfl⟩ := List.getElem?_eq_some_iff.mp ho
  refine List.find?_eq_some_iff_getElem.mpr ⟨by simp, i, hi, rfl, fun j hj => ?_⟩
  rw [Bool.not_eq_true', beq_eq_false_iff_ne]
  intro same
  rw [List.nodup_iff_getElem?_ne_getElem?] at distinct
  refine distinct j i hj (by rwa [List.length_map]) ?_
  rw [List.getElem?_map, List.getElem?_map, List.getElem?_eq_getElem hi,
    List.getElem?_eq_getElem (Nat.lt_trans hj hi), Option.map_some, Option.map_some, same]

theorem visible_name (sound : ∀ i, ¬ FaultyAt ds i) (hd : d ∈ ds) :
    ∃ a ∈ d.name.toList, Text.isBlank a = false := by
  obtain ⟨i, hi⟩ := List.mem_iff_getElem?.mp hd
  have visible : ¬ Text.trim d.name = "" := fun blank => sound i ⟨d, hi, .inl blank⟩
  rw [Text.trim_eq_empty_iff] at visible
  simpa using visible

theorem serves_of_templatesFrom {c : Catalog} (sound : ∀ i, ¬ FaultyAt ds i)
    (h : templatesFrom 0 [] handle ds = .ok c.templates) : c.Serves handle ds := by
  have names : c.names = ds.map (·.name) := names_templatesFrom h
  have distinct : c.names.Nodup := names ▸ nodup_names sound
  constructor
  case size => simpa [Catalog.names, size] using congrArg List.length names
  case template => exact fun i d hd => exists_template h hd
  case names => exact names
  case distinct => exact distinct
  case visible =>
    intro name hname
    rw [names] at hname
    obtain ⟨d, hd, rfl⟩ := List.mem_map.mp hname
    exact visible_name sound hd
  case named =>
    intro i d hd
    obtain ⟨level, -, built⟩ := exists_template h hd
    have named : (d.build (handle.advance i) level).name = d.name :=
      congrArg Prod.fst (keys_build d level)
    rw [built, template?, ← named]
    exact find?_name distinct built
  case unnamed =>
    intro name other
    refine List.find?_eq_none.mpr fun o ho same => ?_
    have mem : o.name ∈ c.names := List.mem_map_of_mem ho
    rw [names] at mem
    obtain ⟨d, hd, hname⟩ := List.mem_map.mp mem
    exact other d hd (hname.trans (beq_iff_eq.mp same))
  case basicName => exact templateByBasicName?_of_templatesFrom h

end ValidationLemmas

open ValidationLemmas

/-! ## Documents -/

/-- A document makes a catalog exactly if none of its definitions is faulty, and is refused exactly
for the first one that is. The catalog that is made has the templates of all definitions, in their
order and under their names, which are all different. -/
theorem ofDocument_exact (handle : Handle) (doc : Document) :
    ((∃ c, ofDocument handle doc = .ok c) ↔ ∀ i, ¬ FaultyAt doc.templates i) ∧
      (∀ f, ofDocument handle doc = .error f ↔ ∃ i, FirstFault doc.templates i f) ∧
      ∀ c, ofDocument handle doc = .ok c → c.Serves handle doc.templates := by
  have refused : ∀ f, ofDocument handle doc = .error f ↔ ∃ i, FirstFault doc.templates i f := by
    intro f
    rw [ofDocument_eq_error_iff, ← firstBehind_nil_iff]
    exact templatesFrom_eq_error_iff sees_nil
  have made : (∃ c, ofDocument handle doc = .ok c) ↔ ∀ i, ¬ FaultyAt doc.templates i := by
    rw [← not_exists, ← exists_firstFault_iff]
    simp only [← refused]
    cases ofDocument handle doc <;> simp
  refine ⟨made, refused, fun c hc => ?_⟩
  exact serves_of_templatesFrom (made.mp ⟨c, hc⟩) (ofDocument_eq_ok_iff.mp hc)

/-- A definition without parts. -/
def Definition.plain (name basicName : String) (level : LevelSpec) : Definition :=
  { name, eplanName := "", level, basicName, bindingName := "", isPid := false, operations := [],
    equipment := [], aggregateParameters := [], mainParameter := none, groups := [],
    systemParameters := [] }

/-- Two definitions with one basic name. -/
def vessels : List Definition :=
  [.plain "Tank" "vessel" (.name " Unit"), .plain "Silo" "vessel" (.number 7)]

theorem ofDocument_vessels :
    ∃ c, ofDocument .first ⟨vessels⟩ = .ok c ∧ c.names = ["Tank", "Silo"] ∧
      c.template? "Silo" = c.templates[1]? ∧ c.templateByBasicName? "vessel" = c.templates[0]? ∧
      c.template? "vessel" = none := by
  have made : (ofDocument .first ⟨vessels⟩).toOption.isSome := by decide +kernel
  cases hc : ofDocument .first ⟨vessels⟩ with
  | error f =>
    rw [hc] at made
    cases made
  | ok c =>
    have serves := (ofDocument_exact .first ⟨vessels⟩).2.2 c hc
    refine ⟨c, rfl, serves.names, serves.named 1 _ rfl, ?_, serves.unnamed "vessel" (by decide)⟩
    rw [serves.basicName]
    rfl

-- the first faulty definition counts, and of its faults the repeated name
example : (ofDocument .first ⟨vessels ++
    [.plain "Tank" "" (.name "tank"), .plain "" "" (.number 0)]⟩).map Catalog.names =
      .error (.duplicateName "Tank") := by
  decide +kernel

end Plant.Catalog
