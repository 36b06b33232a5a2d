import Mathlib
import Plant.Proofs.Workspace.Journal

/-!
# Operations of a history

Operations are only ever added, one at a time, and the first one that is added brings the
placeholder with it. So the operations of an object are told by its past: none if none was added,
and otherwise the placeholder and what was added, in that order. An object that was copied has the
operations of its source in its past.

Results:
1. `additions_lineage?`: what is added in the past of a template is what its definition lists.
2. `Object.Lists.apply`: what one event does to the list.
3. `operations_runAll`: the operations of every object after every history.
-/
namespace Plant

/-! ## Definitions -/

/-- What an operation is added with. -/
structure Signature where
  luaName : String
  name : String
  position : Int32
deriving DecidableEq, Repr

/-- What the operation was added with. -/
def Operation.signature (op : Operation) : Signature := ⟨op.luaName, op.name, op.position⟩

/-- The placeholder is added with no names and the position zero. -/
def Signature.blank : Signature := ⟨"", "", 0⟩

/-- What is listed when these were added: the placeholder comes first, if there is anything. -/
def Signature.listed : List Signature → List Signature
  | [] => []
  | s :: ss => blank :: s :: ss

/-- What an event adds. -/
def Event.additions : Event → List Signature
  | edit (.addOperation luaName name position) => [⟨luaName, name, position⟩]
  | _ => []

/-- What was added in the past of an object, to it or to the objects that it goes back to. -/
def Lineage.additions (l : Lineage) : List Signature := l.events.flatMap Event.additions

/-- The operations of the object are those that were added, behind the placeholder. -/
def Object.Lists (o : Object) (added : List Signature) : Prop :=
  o.operations.map Operation.signature = Signature.listed added

/-! ## Templates -/

namespace OperationLemmas

/-- What edits add. -/
def added (es : List Object.Edit) : List Signature := es.flatMap fun e => Event.additions (.edit e)

theorem added_append (es fs : List Object.Edit) : added (es ++ fs) = added es ++ added fs :=
  List.flatMap_append

theorem added_map_eq_nil {α : Type} {f : α → Object.Edit} (as : List α)
    (hf : ∀ a, Event.additions (.edit (f a)) = []) : added (as.map f) = [] := by
  refine List.flatMap_eq_nil_iff.mpr fun e he => ?_
  obtain ⟨a, -, rfl⟩ := List.mem_map.mp he
  exact hf a

theorem added_operation (d : Catalog.OperationDefinition) :
    added d.edits = [⟨d.luaName, d.name, d.position⟩] := by
  have properties := added_map_eq_nil (f := fun p : Catalog.ActiveDefinition =>
    .editOperation .last (.addProperty p.property)) d.properties fun _ => rfl
  exact congrArg (⟨d.luaName, d.name, d.position⟩ :: ·) properties

theorem added_operations (ds : List Catalog.OperationDefinition) :
    added (ds.flatMap Catalog.OperationDefinition.edits) =
      ds.map fun d => ⟨d.luaName, d.name, d.position⟩ := by
  induction ds with
  | nil => rfl
  | cons d ds ih => rw [List.flatMap_cons, added_append, added_operation, ih]; rfl

theorem additions_aggregateEdit (d : Catalog.ActiveDefinition) :
    Event.additions (.edit d.aggregateEdit) = [] := by
  rcases d with ⟨luaName, name, defaultValue, type⟩
  cases type <;> rfl

theorem added_edits (level : Int32) (d : Catalog.Definition) :
    added (d.edits level) = d.operations.map fun op => ⟨op.luaName, op.name, op.position⟩ := by
  simp only [Catalog.Definition.edits, added_append, added_operations]
  rw [added_map_eq_nil d.equipment fun _ => rfl,
    added_map_eq_nil d.aggregateParameters additions_aggregateEdit,
    added_map_eq_nil d.mainParameter.toList fun _ => rfl, added_map_eq_nil d.groups fun _ => rfl,
    added_map_eq_nil d.systemParameters fun _ => rfl]
  simp [added, Event.additions]

end OperationLemmas

open OperationLemmas

/-- What is added in the past of a template is what its definition lists. -/
theorem additions_lineage? {d : Catalog.Document} {handle : Handle} {i : Nat}
    {definition : Catalog.Definition} {l : Lineage} (hd : d.templates[i]? = some definition)
    (hl : d.lineage? handle i = some l) :
    l.additions = definition.operations.map fun op => ⟨op.luaName, op.name, op.position⟩ := by
  rw [Catalog.Document.lineage?, hd] at hl
  obtain ⟨level, -, rfl⟩ := Option.map_eq_some_iff.mp hl
  rw [Lineage.additions, List.flatMap_map]
  exact added_edits level definition

/-! ## Events -/

theorem Signature.listed_append (ss : List Signature) (s : Signature) :
    listed (ss ++ [s]) = (if ss.isEmpty then [blank] else listed ss) ++ [s] := by
  cases ss <;> rfl

theorem Signature.length_listed (ss : List Signature) :
    (listed ss).length = if ss.isEmpty then 0 else ss.length + 1 := by
  cases ss <;> rfl

theorem Operation.signature_of_edit? {op op' : Operation} {e : Operation.Edit}
    (he : op.edit? e = some op') : op'.signature = op.signature := by
  cases e with
  | addProperty p =>
    cases he
    rfl
  | editProperty which e =>
    obtain ⟨ps, -, rfl⟩ := Option.map_eq_some_iff.mp he
    rfl

namespace Object

variable {o o' : Object} {added : List Signature}

theorem Lists.isEmpty_eq (h : o.Lists added) : o.operations.isEmpty = added.isEmpty := by
  rw [← List.isEmpty_map (f := Operation.signature), h]
  cases added <;> rfl

theorem Lists.append_nil (h : o.Lists added) : o.Lists (added ++ []) := by
  rwa [List.append_nil]

theorem Lists.addOperation (h : o.Lists added) (op : Operation) :
    (o.addOperation op).Lists (added ++ [op.signature]) := by
  have before : (if o.operations.isEmpty then [Operation.placeholder.hold o.handle]
      else o.operations).map Operation.signature =
      if added.isEmpty then [Signature.blank] else Signature.listed added := by
    rw [h.isEmpty_eq, ← show _ = Signature.listed added from h]
    split <;> rfl
  rw [Lists, Signature.listed_append, ← before]
  exact List.map_append

theorem Lists.editOperation? {which : Entry} {e : Operation.Edit} (h : o.Lists added)
    (he : o.editOperation? which e = some o') : o'.Lists added := by
  obtain ⟨ops, hops, rfl⟩ := Option.map_eq_some_iff.mp he
  exact (Entry.map_of_update? (fun _ _ he => Operation.signature_of_edit? he) hops).trans h

/-- Of all edits only one adds to the list, and none takes anything from it. -/
theorem Lists.edit {e : Edit} (h : o.Lists added) (he : o.edit? e = some o') :
    o'.Lists (added ++ Event.additions (.edit e)) := by
  cases e with
  | addOperation luaName name position =>
    cases he
    exact h.addOperation _
  | editOperation which e =>
    exact (h.editOperation? he).append_nil
  | editEquipment which e | editAggregate which e | editMain e | setGroup luaName value
  | setSystem luaName value =>
    obtain ⟨_, -, rfl⟩ := Option.map_eq_some_iff.mp he
    exact h.append_nil
  | _ =>
    cases he
    exact h.append_nil

theorem Lists.copy (h : o.Lists added) (handle : Handle) : (o.copy handle).Lists added := by
  rw [Lists, ← show _ = Signature.listed added from h]
  exact List.map_map

theorem Lists.apply (h : o.Lists added) (e : Event) :
    (e.apply o).Lists (added ++ e.additions) := by
  cases e with
  | copy handle => exact (h.copy handle).append_nil
  | edit e =>
    show ((o.edit? e).getD o).Lists _
    cases he : o.edit? e with
    | some o' => exact h.edit he
    | none =>
      -- an addition never fails to find what it changes
      cases e with
      | addOperation luaName name position => cases he
      | _ => exact h.append_nil

end Object

theorem Lineage.lists_object (l : Lineage) : l.object.Lists l.additions := by
  suffices h : ∀ (es : List Event) (o : Object) (added : List Signature), o.Lists added →
      (es.foldl (fun o e => e.apply o) o).Lists (added ++ es.flatMap Event.additions) from
    h l.events _ [] rfl
  intro es
  induction es with
  | nil =>
    intro o added h
    rw [List.flatMap_nil, List.append_nil]
    exact h
  | cons e es ih =>
    intro o added h
    rw [List.flatMap_cons, ← List.append_assoc]
    exact ih _ _ (h.apply e)

/-! ## Histories -/

namespace Workspace

theorem operationNames_of_lists {o : Object} {added : List Signature} (h : o.Lists added) :
    o.operationNames = (Signature.listed added).map Signature.name := by
  rw [← show _ = Signature.listed added from h, List.map_map]
  rfl

/-- An object gets an operation without names first, then one of its properties goes to the
placeholder of a copy, and the copy gets an operation of its own. -/
def copiedBlank : List Command :=
  [.create "mixer" none, .edit "mixer" (.addOperation "" "" 0),
    .edit "mixer" (.editOperation .last (.addProperty (.new .active "speed" "Speed" "50"))),
    .copyFor "mixer" ⟨7⟩ "tank",
    .edit "tank" (.editOperation (.named "") (.addProperty (.new .activeBool "open" "Open" "1"))),
    .edit "tank" (.addOperation "FILL" "Filling" 1)]

/-- After every history the operations of every object are those that were added in its past, in
that order and each once, behind a placeholder that is there as soon as one was added, and once
only. -/
theorem operations_runAll {cs : List Command} {p : Place} {o : Object}
    (h : (runAll cs empty).at? p = some o) :
    ∃ l, journal cs p = some l ∧ l.object = o ∧
      o.operations.map Operation.signature = Signature.listed l.additions ∧
      o.operations.length = (if l.additions.isEmpty then 0 else l.additions.length + 1) ∧
      o.operationNames = if l.additions.isEmpty then [] else "" :: l.additions.map Signature.name := by
  rw [at?_runAll] at h
  obtain ⟨l, hl, rfl⟩ := Option.map_eq_some_iff.mp h
  have lists := l.lists_object
  refine ⟨l, hl, rfl, lists, ?_, ?_⟩
  · rw [← Signature.length_listed, ← show _ = Signature.listed l.additions from lists,
      List.length_map]
  · rw [operationNames_of_lists lists]
    cases l.additions <;> rfl

theorem operations_runAll_copiedBlank :
    ∃ o, (runAll copiedBlank empty).at? (.slot "tank") = some o ∧
      o.operations.map Operation.signature = [.blank, .blank, ⟨"FILL", "Filling", 1⟩] ∧
      o.operations.length = 3 ∧ o.operationNames = ["", "", "Filling"] := by
  have present : ((runAll copiedBlank empty).at? (.slot "tank")).isSome := by cbv
  have past : (journal copiedBlank (.slot "tank")).map Lineage.additions =
      some [.blank, ⟨"FILL", "Filling", 1⟩] := by cbv
  obtain ⟨o, ho⟩ := Option.isSome_iff_exists.mp present
  obtain ⟨l, hl, -, signatures, length, names⟩ := operations_runAll ho
  rw [hl] at past
  rw [Option.some.inj past] at signatures length names
  exact ⟨o, ho, signatures, length, names⟩

end Workspace

end Plant
