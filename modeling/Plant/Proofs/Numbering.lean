import Mathlib
import Plant.Proofs.Object.Growth

/-!
# The numbering of system parameters

A collection of system parameters counts what is added to it: the first parameter has the index one,
and each later one the index after that. A copy is a collection of its own that goes on where its
source was, so what was added to the source before it was copied counts for it, and what is added
later does not.

Results:
1. `Counted.numbers`: as long as the counter has not run over, indices are positions, and a search
   by index finds what is there.
2. `Counted.toNat_returned`: the indices that additions return.
3. `follows_editAll`: the numbering of a collection after any changes.
4. `shelf_eq`: collections that are kept side by side and copied are each what their own changes
   make of an empty one.
5. `shelf_append_of_target`: changes of one collection leave the others as they are.
-/
namespace Plant.SystemParameters

/-! ## Definitions -/

/-- What a parameter is added with. -/
structure Addition where
  luaName : String
  name : String
  value : Number.Binary64
  meter : String

/-- A change of a collection. -/
inductive Edit where
  | add (a : Addition)
  | set (luaName : String) (value : Number.Binary64)

/-- The collection after a change; it is the same if there is no parameter of the name. -/
def edit : Edit → SystemParameters → SystemParameters
  | .add a, s => (s.add a.luaName a.name a.value a.meter).2
  | .set luaName value, s => (s.setValue? luaName value).getD s

/-- The index that a change returns, which it does if it adds a parameter. -/
def returned? : Edit → SystemParameters → Option UInt32
  | .add a, s => some (s.add a.luaName a.name a.value a.meter).1
  | .set .., _ => none

/-- The collection after a sequence of changes. -/
def editAll (es : List Edit) (s : SystemParameters) : SystemParameters :=
  es.foldl (fun s e => s.edit e) s

/-- The indices that a sequence of changes returns, one after the other. -/
def returned : List Edit → SystemParameters → List UInt32
  | [], _ => []
  | e :: es, s => (s.returned? e).toList ++ (s.edit e).returned es

/-- What a change adds. -/
def Edit.addition? : Edit → Option Addition
  | add a => some a
  | set _ _ => none

/-- What changes add, in that order. -/
def additions (es : List Edit) : List Addition := es.filterMap Edit.addition?

/-- The parameters are those that were added, in that order. The indices are the positions from one
on; the next one comes behind them. A search by index finds what is in its position, and nothing by
any other index. -/
structure Numbers (added : List Addition) (s : SystemParameters) : Prop where
  size : s.size = added.length
  entry : ∀ (k : Nat) (a : Addition), added[k]? = some a → ∃ p, s.entries[k]? = some p ∧
    p.index.toNat = k + 1 ∧ p.luaName = a.luaName ∧ p.name = a.name ∧ p.meter = a.meter
  nextIndex : s.nextIndex.toNat = added.length + 1
  found : ∀ index : UInt32, 1 ≤ index.toNat → index.toNat ≤ added.length →
    ∃ p, s.entries[index.toNat - 1]? = some p ∧ s.findIndex? index = some p
  missing : ∀ index : UInt32, index = 0 ∨ added.length < index.toNat → s.findIndex? index = none
  distinct : (s.entries.map (·.index)).Nodup

/-- A change of the value is refused exactly if there is no parameter of the name. Otherwise it
changes the value of the first one and nothing else. -/
structure SetsFirst (luaName : String) (value : Number.Binary64) (s : SystemParameters) :
    Prop where
  refused : s.setValue? luaName value = none ↔ ∀ p ∈ s.entries, p.luaName ≠ luaName
  changed : ∀ s', s.setValue? luaName value = some s' → ∃ before p after,
    FirstNamed SystemParameter.luaName luaName s.entries before p after ∧
      s' = { s with entries := before ++ { p with value } :: after }

/-- What can be said of a collection after changes: it numbers what they added, and they returned
these indices; the next parameter gets the next index, which is returned; no later change takes an
index from a parameter or gives it another one, and values are changed by name. -/
structure Follows (es : List Edit) (s : SystemParameters) : Prop where
  numbers : (additions es).length < 2 ^ 32 - 1 → s.Numbers (additions es)
  returned : (additions es).length < 2 ^ 32 - 1 →
    (empty.returned es).map UInt32.toNat = List.range' 1 (additions es).length
  given : ∀ a : Addition, (s.add a.luaName a.name a.value a.meter).1 = s.nextIndex ∧
    ∃ p, (s.edit (.add a)).entries = s.entries ++ [p] ∧ p.index = s.nextIndex ∧ p.value = a.value
  stable : ∀ (later : List Edit) (k : Nat) (p : SystemParameter), s.entries[k]? = some p →
    ∃ q, (s.editAll later).entries[k]? = some q ∧ q.label = p.label
  sets : ∀ luaName value, s.SetsFirst luaName value

/-! ## Collections side by side -/

/-- What can be done when several collections are kept side by side. -/
inductive Action where
  | start
  /-- Changes the collection in a position, if there is one. -/
  | change (position : Nat) (e : Edit)
  /-- Puts a copy of the collection in a position behind all others. -/
  | copy (position : Nat)

/-- The position whose collection an action changes. -/
def Action.target? : Action → Option Nat
  | change position _ => some position
  | _ => none

/-- What an action makes of things that are kept side by side. -/
def Action.act {α : Type} (new : α) (change : Edit → α → α) : Action → List α → List α
  | .start, as => as ++ [new]
  | .change position e, as => as.modify position (change e)
  | .copy position, as => as ++ as[position]?.toList

/-- The collections after actions that begin with none. -/
def shelf (actions : List Action) : List SystemParameters :=
  actions.foldl (fun ss t => t.act empty edit ss) []

/-- The changes that led to each collection, those of its source before it was copied among them. -/
def pasts (actions : List Action) : List (List Edit) :=
  actions.foldl (fun ps t => t.act [] (fun e es => es ++ [e]) ps) []

/-! ## One collection -/

variable {s : SystemParameters} {added : List Addition}

/-- What is counted, by the counter of 32 bits, which may run over. -/
structure Counted (added : List Addition) (s : SystemParameters) : Prop where
  labels : s.entries.map SystemParameter.label =
    added.mapIdx fun k a => (UInt32.ofNat (k + 1), a.luaName, a.name, a.meter)
  nextIndex : s.nextIndex = UInt32.ofNat (added.length + 1)

theorem setsFirst (luaName : String) (value : Number.Binary64) (s : SystemParameters) :
    s.SetsFirst luaName value := by
  constructor
  case refused => rw [setValue?, Option.map_eq_none_iff, updateFirst?_eq_none_iff]
  case changed =>
    intro s' hs'
    obtain ⟨entries, hentries, rfl⟩ := Option.map_eq_some_iff.mp hs'
    obtain ⟨before, p, after, first, rfl⟩ := exists_firstNamed_of_updateFirst? hentries
    exact ⟨before, p, after, first, rfl⟩

namespace Counted

theorem empty : Counted [] SystemParameters.empty := ⟨rfl, rfl⟩

theorem add (h : s.Counted added) (a : Addition) :
    (s.edit (.add a)).Counted (added ++ [a]) := by
  constructor
  · show (s.entries ++ [_]).map SystemParameter.label = _
    rw [List.map_append, h.labels, List.mapIdx_concat, ← h.nextIndex]
    rfl
  · show s.nextIndex + 1 = _
    rw [h.nextIndex, List.length_append]
    exact (UInt32.ofNat_add ..).symm

/-- A change of a value changes no label. -/
theorem set (h : s.Counted added) (luaName : String) (value : Number.Binary64) :
    (s.edit (.set luaName value)).Counted added := by
  show ((s.setValue? luaName value).getD s).Counted added
  cases hs : s.setValue? luaName value with
  | none => exact h
  | some s' =>
    obtain ⟨before, p, after, first, rfl⟩ := (s.setsFirst luaName value).changed s' hs
    refine ⟨?_, h.nextIndex⟩
    show (before ++ { p with value } :: after).map SystemParameter.label = _
    rw [← h.labels, first.split, List.map_append, List.map_append]
    rfl

theorem editAll (h : s.Counted added) (es : List Edit) :
    (s.editAll es).Counted (added ++ additions es) := by
  induction es generalizing s added with
  | nil =>
    rw [additions, List.filterMap_nil, List.append_nil]
    exact h
  | cons e es ih =>
    cases e with
    | add a =>
      have later := ih (h.add a)
      rwa [List.append_assoc] at later
    | set luaName value => exact ih (h.set luaName value)

/-- Each addition returns the index that the counter has come to. -/
theorem returned_eq (h : s.Counted added) (es : List Edit) :
    s.returned es =
      (List.range' (added.length + 1) (additions es).length).map UInt32.ofNat := by
  induction es generalizing s added with
  | nil => rfl
  | cons e es ih =>
    cases e with
    | add a =>
      have later := ih (h.add a)
      rw [List.length_append, List.length_singleton] at later
      show s.nextIndex :: (s.edit (.add a)).returned es =
        (List.range' (added.length + 1) ((additions es).length + 1)).map UInt32.ofNat
      rw [later, h.nextIndex, List.range'_succ, List.map_cons]
    | set luaName value => exact ih (h.set luaName value)

/-- As long as the counter does not run over, the indices that are returned are those behind the
last one that was given. -/
theorem toNat_returned (h : s.Counted added) {es : List Edit}
    (room : added.length + (additions es).length < 2 ^ 32 - 1) :
    (s.returned es).map UInt32.toNat = List.range' (added.length + 1) (additions es).length := by
  rw [h.returned_eq, List.map_map]
  refine (List.map_congr_left fun k hk => ?_).trans (List.map_id _)
  rw [List.mem_range'_1] at hk
  exact UInt32.toNat_ofNat_of_lt' (show k < 2 ^ 32 by omega)

variable (h : s.Counted added)
include h

theorem size_eq : s.size = added.length := by
  have lengths := congrArg List.length h.labels
  rwa [List.length_map, List.length_mapIdx] at lengths

theorem getElem?_labels (k : Nat) : s.entries[k]?.map SystemParameter.label =
    added[k]?.map fun a => (UInt32.ofNat (k + 1), a.luaName, a.name, a.meter) := by
  rw [← List.getElem?_map, h.labels, List.getElem?_mapIdx]

variable (room : added.length < 2 ^ 32 - 1)
include room

theorem index_eq {k : Nat} {p : SystemParameter} (hp : s.entries[k]? = some p) :
    p.index.toNat = k + 1 := by
  have label := h.getElem?_labels k
  rw [hp] at label
  obtain ⟨a, ha, label⟩ := Option.map_eq_some_iff.mp label.symm
  have short : k < added.length := (List.getElem?_eq_some_iff.mp ha).1
  rw [show p.index = UInt32.ofNat (k + 1) from (congrArg (·.1) label).symm, UInt32.toNat_ofNat']
  exact Nat.mod_eq_of_lt (by omega)

/-- An index is found in its position, which is where it was given. -/
theorem findIndex?_index {k : Nat} {p : SystemParameter} (hp : s.entries[k]? = some p) :
    s.findIndex? p.index = some p := by
  obtain ⟨short, here⟩ := List.getElem?_eq_some_iff.mp hp
  refine List.find?_eq_some_iff_getElem.mpr ⟨beq_self_eq_true _, k, short, here, fun j hj => ?_⟩
  have earlier := h.index_eq room (List.getElem?_eq_getElem (by omega : j < s.entries.length))
  have there := h.index_eq room hp
  rw [Bool.not_eq_true', beq_eq_false_iff_ne]
  intro same
  rw [same] at earlier
  omega

theorem findIndex?_eq_none {index : UInt32} (out : index = 0 ∨ added.length < index.toNat) :
    s.findIndex? index = none := by
  refine List.find?_eq_none.mpr fun p hp => ?_
  obtain ⟨k, hk⟩ := List.mem_iff_getElem?.mp hp
  have given := h.index_eq room hk
  have short : k < s.size := (List.getElem?_eq_some_iff.mp hk).1
  rw [h.size_eq] at short
  rw [beq_iff_eq]
  rintro rfl
  rcases out with zero | beyond
  · rw [zero] at given
    cases given
  · omega

theorem nodup_index : (s.entries.map (·.index)).Nodup := by
  refine List.pairwise_map.mpr (List.pairwise_iff_getElem.mpr fun i j hi hj hij same => ?_)
  have earlier := h.index_eq room (List.getElem?_eq_getElem hi)
  have later := h.index_eq room (List.getElem?_eq_getElem hj)
  rw [same] at earlier
  omega

theorem numbers : s.Numbers added where
  size := h.size_eq
  entry k a ha := by
    have label := h.getElem?_labels k
    rw [ha] at label
    obtain ⟨p, hp, label⟩ := Option.map_eq_some_iff.mp label
    exact ⟨p, hp, h.index_eq room hp, congrArg (·.2.1) label, congrArg (·.2.2.1) label,
      congrArg (·.2.2.2) label⟩
  nextIndex := by
    rw [h.nextIndex, UInt32.toNat_ofNat']
    exact Nat.mod_eq_of_lt (by omega)
  found index first last := by
    have short : index.toNat - 1 < s.entries.length := by
      rw [show s.entries.length = added.length from h.size_eq]
      omega
    have hp := List.getElem?_eq_getElem short
    have same : (s.entries[index.toNat - 1]).index = index := by
      refine UInt32.toNat.inj ?_
      rw [h.index_eq room hp]
      omega
    have found := h.findIndex?_index room hp
    rw [same] at found
    exact ⟨_, hp, found⟩
  missing index := h.findIndex?_eq_none room
  distinct := h.nodup_index room

end Counted

/-- Whatever was done to a collection that was empty at first. -/
theorem follows_editAll (es : List Edit) : (empty.editAll es).Follows es := by
  have counted : (empty.editAll es).Counted (additions es) := Counted.empty.editAll es
  have returned (room : (additions es).length < 2 ^ 32 - 1) :=
    Counted.empty.toNat_returned (show 0 + (additions es).length < 2 ^ 32 - 1 by omega)
  refine ⟨counted.numbers, returned, fun a => ⟨rfl, _, rfl, rfl, rfl⟩,
    fun later k p hp => ?_, fun luaName value => setsFirst ..⟩
  -- both lists of labels begin with what was added first
  have label := counted.getElem?_labels k
  have label' := (counted.editAll later).getElem?_labels k
  rw [hp] at label
  obtain ⟨a, ha, label⟩ := Option.map_eq_some_iff.mp label.symm
  rw [List.getElem?_append_left (List.getElem?_eq_some_iff.mp ha).1, ha] at label'
  obtain ⟨q, hq, label'⟩ := Option.map_eq_some_iff.mp label'
  exact ⟨q, hq, label'.trans label⟩

/-! ## Collections side by side -/

namespace Action

variable {α β : Type}

/-- Actions do not tell things apart that are changed in the same way. -/
theorem map_act {f : α → β} {change : Edit → α → α} {change' : Edit → β → β}
    (same : ∀ e a, f (change e a) = change' e (f a)) (new : α) (t : Action) (as : List α) :
    (t.act new change as).map f = t.act (f new) change' (as.map f) := by
  cases t with
  | start => exact List.map_append
  | change position e =>
    refine List.ext_getElem? fun i => ?_
    simp only [act, List.getElem?_map, List.getElem?_modify, Option.map_eq_map, Option.map_map]
    congr 1
    funext a
    simp only [Function.comp_apply]
    split
    · exact same e a
    · rfl
  | copy position =>
    rw [act, act, List.map_append, List.getElem?_map]
    cases as[position]? <;> rfl

/-- What an action does not change stays in its position. -/
theorem getElem?_act {new : α} {change : Edit → α → α} {t : Action} {i : Nat}
    (other : t.target? ≠ some i) {as : List α} {a : α} (ha : as[i]? = some a) :
    (t.act new change as)[i]? = some a := by
  have short : i < as.length := (List.getElem?_eq_some_iff.mp ha).1
  cases t with
  | start | copy =>
    rw [act, List.getElem?_append_left short]
    exact ha
  | change position e =>
    rw [act, List.getElem?_modify_ne _ _ fun same => other (congrArg some same)]
    exact ha

end Action

theorem editAll_concat (es : List Edit) (e : Edit) (s : SystemParameters) :
    s.editAll (es ++ [e]) = (s.editAll es).edit e :=
  List.foldl_concat ..

/-- Every collection is what its past makes of an empty one. -/
theorem shelf_eq (actions : List Action) :
    shelf actions = (pasts actions).map fun es => empty.editAll es := by
  induction actions using List.reverseRecOn with
  | nil => rfl
  | append_singleton actions t ih =>
    rw [shelf, pasts, List.foldl_concat, List.foldl_concat, ← shelf, ← pasts, ih]
    exact (t.map_act (fun e es => editAll_concat es e empty) [] _).symm

theorem shelf_append_of_target {actions later : List Action} {i : Nat} {s : SystemParameters}
    (hs : (shelf actions)[i]? = some s) (others : ∀ t ∈ later, t.target? ≠ some i) :
    (shelf (actions ++ later))[i]? = some s := by
  induction later using List.reverseRecOn with
  | nil => rwa [List.append_nil]
  | append_singleton later t ih =>
    rw [List.forall_mem_append, List.forall_mem_singleton] at others
    rw [← List.append_assoc, shelf, List.foldl_concat, ← shelf]
    exact t.getElem?_act others.2 (ih others.1)

theorem shelf_copy {actions : List Action} {i : Nat} {s : SystemParameters}
    (hs : (shelf actions)[i]? = some s) :
    (shelf (actions ++ [.copy i]))[(shelf actions).length]? = some s := by
  rw [shelf, List.foldl_concat, ← shelf, Action.act, hs]
  exact List.getElem?_concat_length

end Plant.SystemParameters
