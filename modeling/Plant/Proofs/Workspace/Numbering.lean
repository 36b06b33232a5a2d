import Plant.Proofs.Numbering
import Plant.Proofs.Workspace.Instances
import Plant.Proofs.Workspace.Result

/-!
# The numbering of system parameters of objects

The system parameters of an object are a collection that nobody changes but by the object's edits.
So they are what the edits in its past make of an empty one, those of its source before it was
copied among them, whether it was copied from a slot, for an owner or from a template.

Results:
1. `Lineage.systemParameters_object`: the collection of an object is told by its past.
2. `at?_runAll_of_not_target`: commands on other slots leave an object as it is.
3. `numbering_exact`: the numbering of every collection after every history, on its own or as part
   of an object, and the index that is returned for a new parameter.
-/
namespace Plant

open SystemParameters (shelf pasts additions)

/-! ## Definitions -/

/-- What an event changes in the system parameters. -/
def Event.systemEdit? : Event → Option SystemParameters.Edit
  | edit (.addSystem luaName name value meter) => some (.add ⟨luaName, name, value, meter⟩)
  | edit (.setSystem luaName value) => some (.set luaName value)
  | _ => none

/-- What was changed in the system parameters in the past of an object, in its own or in those of
the objects that it goes back to. -/
def Lineage.systemEdits (l : Lineage) : List SystemParameters.Edit :=
  l.events.filterMap Event.systemEdit?

/-- The place of the object that a command copies, and the slot for the copy. -/
def Workspace.copied? (w : Workspace) : Workspace.Command → Option (Place × String)
  | .copy source slot => some (.slot source, slot)
  | .copyFor source _ slot => some (.slot source, slot)
  | .copyTemplate name slot => (w.templatePlace? (·.name == name)).map (·, slot)
  | .instantiate basicName _ slot => (w.templatePlace? (·.basicName == basicName)).map (·, slot)
  | _ => none

/-! ## Pasts -/

/-- Of all events two kinds of edits change the system parameters. -/
theorem Event.systemParameters_apply (e : Event) (o : Object) :
    (e.apply o).systemParameters = o.systemParameters.editAll e.systemEdit?.toList := by
  -- an edit that finds nothing leaves the object as it is, like one that changes another part
  have kept {α : Type} (x : Option α) (f : α → Object)
      (hf : ∀ a, (f a).systemParameters = o.systemParameters) :
      ((x.map f).getD o).systemParameters = o.systemParameters := by
    cases x with
    | none => rfl
    | some a => exact hf a
  cases e with
  | copy handle => rfl
  | edit e =>
    cases e with
    | editOperation | editEquipment | editAggregate | editMain | setGroup =>
      exact kept _ _ fun _ => rfl
    | setSystem luaName value =>
      show ((o.setSystem? luaName value).getD o).systemParameters =
        (o.systemParameters.setValue? luaName value).getD o.systemParameters
      rw [Object.setSystem?]
      cases o.systemParameters.setValue? luaName value <;> rfl
    | _ => rfl

/-- The system parameters of an object are what the edits in its past make of none. -/
theorem Lineage.systemParameters_object (l : Lineage) :
    l.object.systemParameters = SystemParameters.empty.editAll l.systemEdits := by
  suffices h : ∀ (es : List Event) (o : Object),
      (es.foldl (fun o e => e.apply o) o).systemParameters =
        o.systemParameters.editAll (es.filterMap Event.systemEdit?) from h l.events _
  intro es
  induction es with
  | nil => exact fun _ => rfl
  | cons e es ih =>
    intro o
    rw [List.foldl_cons, ih, e.systemParameters_apply]
    cases he : e.systemEdit? with
    | none => rw [List.filterMap_cons_none he]; rfl
    | some edit => rw [List.filterMap_cons_some he]; rfl

namespace Workspace

variable {w : Workspace} {p : Place} {o : Object}

/-! ## Commands -/

/-- An edit that finds what it is to change leaves the changed object in its slot. -/
theorem at?_step_edit {slot : String} {e : Object.Edit} {o' : Object}
    (ho : w.at? (.slot slot) = some o) (he : o.edit? e = some o') :
    (w.step (.edit slot e)).at? (.slot slot) = some o' := by
  have accepted : w.run (.edit slot e) = .ok (w.put slot o') := by
    rw [run, editObject, object_eq_ok_iff.mpr ho]
    simp [bind, Except.bind, he]
  rw [step, accepted, at?_put]
  exact Function.update_self ..

/-- Only a command on a slot changes what is in it, and no command changes a template. -/
theorem at?_step_of_not_target {c : Command} (other : c.target?.map Place.slot ≠ some p)
    (ho : w.at? p = some o) : (w.step c).at? p = some o := by
  cases p with
  | template catalog index =>
    obtain ⟨c', hc', ho⟩ := Option.bind_eq_some_iff.mp ho
    obtain ⟨new, hnew⟩ := catalogs_prefix_step w c
    have there : (w.step c).catalogs[catalog]? = some c' := by
      rw [← hnew, List.getElem?_append_left (List.getElem?_eq_some_iff.mp hc').1]
      exact hc'
    show (w.step c).catalogs[catalog]?.bind _ = _
    rw [there]
    exact ho
  | slot name =>
    cases hs : c.target? with
    | some s =>
      rw [hs] at other
      rw [at?_step hs, Function.update_of_ne fun same => other (congrArg some same.symm)]
      exact ho
    | none =>
      suffices same : (w.step c).objects = w.objects by
        show (w.step c).objects[name]? = some o
        rw [same]
        exact ho
      unfold step
      cases hc : w.run c with
      | error r => rfl
      | ok w' => cases accepted_of_run hc <;> first | rfl | cases hs

theorem at?_runAll_of_not_target {later : List Command}
    (others : ∀ c ∈ later, c.target?.map Place.slot ≠ some p) (ho : w.at? p = some o) :
    (runAll later w).at? p = some o := by
  induction later generalizing w with
  | nil => exact ho
  | cons c later ih =>
    rw [List.forall_mem_cons] at others
    exact ih others.2 (at?_step_of_not_target others.1 ho)

/-- The copy has the system parameters of its source. -/
theorem systemParameters_of_copied? {c : Command} {slot : String}
    (hc : w.copied? c = some (p, slot)) (ho : w.at? p = some o) :
    ∃ o', (w.step c).at? (.slot slot) = some o' ∧ o'.systemParameters = o.systemParameters := by
  suffices accepted : ∃ o', w.run c = .ok ((w.put slot o').useHandles 1) ∧
      o'.systemParameters = o.systemParameters by
    obtain ⟨o', run, same⟩ := accepted
    refine ⟨o', ?_, same⟩
    rw [step, run, at?_useHandles, at?_put]
    exact Function.update_self ..
  have template {test : Object → Bool} {slot' : String}
      (h : (w.templatePlace? test).map (·, slot') = some (p, slot)) :
      w.catalog.templates.find? test = some o ∧ slot' = slot := by
    obtain ⟨p', hp', same⟩ := Option.map_eq_some_iff.mp h
    cases same
    rw [← templatePlace?_bind_at?, hp']
    exact ⟨ho, rfl⟩
  cases c with
  | copy source =>
    cases hc
    refine ⟨o.copy w.nextHandle, ?_, rfl⟩
    rw [run, object_eq_ok_iff.mpr ho]
    rfl
  | copyFor source owner =>
    cases hc
    refine ⟨o.copyFor w.nextHandle owner, ?_, rfl⟩
    rw [run, object_eq_ok_iff.mpr ho]
    rfl
  | copyTemplate name =>
    obtain ⟨found, rfl⟩ := template hc
    refine ⟨o.copy w.nextHandle, ?_, rfl⟩
    rw [run, Catalog.template?, found]
  | instantiate basicName owner =>
    obtain ⟨found, rfl⟩ := template hc
    refine ⟨o.copyFor w.nextHandle owner, ?_, rfl⟩
    rw [run, Catalog.instantiate?, Catalog.templateByBasicName?, found]
    rfl
  | _ => cases hc

/-! ## Histories -/

/-- Collections that are kept side by side and copied number what was added in their past, that of
their source included, and neither a copy nor the source is changed through the other. So do the
system parameters of every object after every history, and adding another one to an object returns
the index that it is given, which was the next one before. -/
theorem numbering_exact :
    (∀ actions i s, (shelf actions)[i]? = some s →
      (∃ es, (pasts actions)[i]? = some es ∧ s.Follows es) ∧
      (shelf (actions ++ [.copy i]))[(shelf actions).length]? = some s ∧
      ∀ later, (∀ t ∈ later, t.target? ≠ some i) → (shelf (actions ++ later))[i]? = some s) ∧
    ∀ cs p o, (runAll cs empty).at? p = some o →
      (∃ l, journal cs p = some l ∧ l.object = o ∧ o.systemParameters.Follows l.systemEdits) ∧
      (∀ a : SystemParameters.Addition, ∃ o',
        o.addSystem a.luaName a.name a.value a.meter = (o.systemParameters.nextIndex, o') ∧
          o'.systemParameters = o.systemParameters.edit (.add a) ∧
          ∀ slot, p = .slot slot →
            (runAll (cs ++ [.edit slot (.addSystem a.luaName a.name a.value a.meter)]) empty).at? p =
              some o') ∧
      (∀ c slot, (runAll cs empty).copied? c = some (p, slot) →
        ∃ o', (runAll (cs ++ [c]) empty).at? (.slot slot) = some o' ∧
          o'.systemParameters = o.systemParameters) ∧
      ∀ later, (∀ c ∈ later, c.target?.map Place.slot ≠ some p) →
        (runAll (cs ++ later) empty).at? p = some o := by
  refine ⟨fun actions i s hs => ⟨?_, SystemParameters.shelf_copy hs, fun later => ?_⟩,
    fun cs p o ho => ⟨?_, fun a => ⟨_, rfl, rfl, ?_⟩, fun c slot hc => ?_, fun later others => ?_⟩⟩
  · rw [SystemParameters.shelf_eq, List.getElem?_map] at hs
    obtain ⟨es, hes, rfl⟩ := Option.map_eq_some_iff.mp hs
    exact ⟨es, hes, SystemParameters.follows_editAll es⟩
  · exact SystemParameters.shelf_append_of_target hs
  · rw [at?_runAll] at ho
    obtain ⟨l, hl, rfl⟩ := Option.map_eq_some_iff.mp ho
    refine ⟨l, hl, rfl, ?_⟩
    rw [l.systemParameters_object]
    exact SystemParameters.follows_editAll l.systemEdits
  · rintro slot rfl
    rw [runAll, List.foldl_concat]
    exact at?_step_edit ho rfl
  · rw [runAll, List.foldl_concat]
    exact systemParameters_of_copied? hc ho
  · rw [runAll, List.foldl_append]
    exact at?_runAll_of_not_target others ho

/-- Two parameters of one name. -/
def pressures : List SystemParameters.Addition :=
  [⟨"p", "Pressure", ⟨0⟩, "bar"⟩, ⟨"p", "Delay", ⟨0⟩, "s"⟩]

def temperature : SystemParameters.Addition := ⟨"t", "Temperature", ⟨0⟩, ""⟩

/-- A collection gets two parameters of one name; a copy of it gets a third one, and the first of
the two is set in the original. -/
def sideBySide : List SystemParameters.Action :=
  [.start] ++ pressures.map (.change 0 <| .add ·) ++
    [.copy 0, .change 1 (.add temperature), .change 0 (.set "p" ⟨1⟩)]

/-- The same with objects, the copy of which belongs to another one. -/
def numberedTwice : List Command :=
  [.create "tank" none, .edit "tank" (.addSystem "p" "Pressure" ⟨0⟩ "bar"),
    .edit "tank" (.addSystem "p" "Delay" ⟨0⟩ "s"), .copyFor "tank" ⟨7⟩ "unit",
    .edit "unit" (.addSystem "t" "Temperature" ⟨0⟩ ""), .edit "tank" (.setSystem "p" ⟨1⟩)]

theorem numbering_exact_tanks :
    (∃ s, (shelf sideBySide)[0]? = some s ∧ s.Numbers pressures) ∧
    (∃ s, (shelf sideBySide)[1]? = some s ∧ s.Numbers (pressures ++ [temperature]) ∧
      (shelf (sideBySide ++ [.change 0 (.set "p" ⟨2⟩)]))[1]? = some s) ∧
    ∃ o, (runAll numberedTwice empty).at? (.slot "unit") = some o ∧
      o.systemParameters.Numbers (pressures ++ [temperature]) ∧
      (∃ o', o.addSystem "v" "Volume" ⟨0⟩ "l" = (4, o')) ∧
      (runAll (numberedTwice ++ [.discard "tank"]) empty).at? (.slot "unit") = some o := by
  obtain ⟨onShelf, ofObjects⟩ := numbering_exact
  have first : ((shelf sideBySide)[0]?).isSome := by cbv
  have second : ((shelf sideBySide)[1]?).isSome := by cbv
  have present : ((runAll numberedTwice empty).at? (.slot "unit")).isSome := by cbv
  have past : (journal numberedTwice (.slot "unit")).map (additions ·.systemEdits) =
      some (pressures ++ [temperature]) := by cbv
  obtain ⟨s, hs⟩ := Option.isSome_iff_exists.mp first
  obtain ⟨s', hs'⟩ := Option.isSome_iff_exists.mp second
  obtain ⟨o, ho⟩ := Option.isSome_iff_exists.mp present
  obtain ⟨⟨es, hes, follows⟩, -⟩ := onShelf _ _ _ hs
  obtain ⟨⟨es', hes', follows'⟩, -, stays⟩ := onShelf _ _ _ hs'
  obtain ⟨⟨l, hl, -, numbered⟩, adds, -, kept⟩ := ofObjects _ _ _ ho
  cases hes
  cases hes'
  rw [hl, Option.map_some, Option.some.injEq] at past
  have numbers := numbered.numbers
  rw [past] at numbers
  refine ⟨⟨s, hs, follows.numbers (by decide)⟩, ⟨s', hs', follows'.numbers (by decide), ?_⟩,
    o, ho, numbers (by decide), ?_, ?_⟩
  · exact stays _ (by decide)
  · have next : o.systemParameters.nextIndex = 4 := UInt32.toNat.inj (numbers (by decide)).nextIndex
    obtain ⟨o', added, -⟩ := adds ⟨"v", "Volume", ⟨0⟩, "l"⟩
    rw [next] at added
    exact ⟨o', added⟩
  · exact kept _ (by decide)

end Workspace

end Plant
