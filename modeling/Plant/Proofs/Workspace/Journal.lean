import Plant.Proofs.Object.Lineage
import Plant.Proofs.Workspace.Place

/-!
# Journals

A journal keeps, beside a workspace, the past of the object in each place: which new object it goes
back to and what has been done since to it and, before it was copied, to its sources. It is written
from the commands, and looks at objects only for the template or the property that a command names.

Results:
1. `templates_of_ofDocument`: the templates of a document have the pasts that its definitions say.
2. `at?_runAll`: after every history the objects in all places are those that the journal's pasts
   lead to.
3. `at?_induction`: what is true of new objects and is kept by edits and copies is true of every
   object after every history.
-/
namespace Plant

/-- The past of the object in each place; there is none where there is no object. -/
abbrev Journal := Place → Option Lineage

/-- The past of the template that a document defines at an index. -/
def Catalog.Document.lineage? (d : Document) (handle : Handle) (index : Nat) : Option Lineage :=
  d.templates[index]?.bind fun definition =>
    definition.level.resolve.toOption.map fun level =>
      { handle := handle.advance index, owner := none, events := (definition.edits level).map .edit }

namespace Workspace

variable {w w' : Workspace}

/-- The journal after an accepted command. -/
def note (w : Workspace) (j : Journal) : Command → Journal
  | .create slot owner => Function.update j (.slot slot) (some ⟨w.nextHandle, owner, []⟩)
  | .copy source slot =>
    Function.update j (.slot slot) ((j (.slot source)).map (·.andThen (.copy w.nextHandle)))
  | .copyFor source owner slot =>
    Function.update j (.slot slot) ((j (.slot source)).map (·.copiedFor w.nextHandle owner))
  | .discard slot => Function.update j (.slot slot) none
  | .edit slot e => Function.update j (.slot slot) ((j (.slot slot)).map (·.andThen (.edit e)))
  | .copyProperty source sourceOperation property slot operation =>
    ((w.at? (.slot source)).bind fun o => (o.operation? sourceOperation).bind
        (·.property? property)).elim j fun p =>
      Function.update j (.slot slot) ((j (.slot slot)).map
        (·.andThen (.edit (.editOperation (.named operation) (.addProperty p)))))
  | .loadCatalog document =>
    Place.withCatalog w.catalogs.length (document.lineage? w.nextHandle) j
  | .copyCatalog =>
    Place.withCatalog w.catalogs.length
      (fun i => (j (.template w.inUse i)).map (·.andThen (.copy (w.nextHandle.advance i)))) j
  | .copyTemplate name slot =>
    Function.update j (.slot slot)
      (((w.templatePlace? (·.name == name)).bind j).map (·.andThen (.copy w.nextHandle)))
  | .instantiate basicName owner slot =>
    Function.update j (.slot slot)
      (((w.templatePlace? (·.basicName == basicName)).bind j).map (·.copiedFor w.nextHandle owner))
  | .register _ _ => j
  | .setProcessCell _ => j
  | .useCatalog _ => j
  | .setSettings _ => j

/-- The journal after a command; nothing is noted of a command that is refused. -/
def record (w : Workspace) (j : Journal) (c : Command) : Journal :=
  match w.run c with
  | .ok _ => w.note j c
  | .error _ => j

/-- The journal after a history of commands. -/
def recordAll : List Command → Workspace → Journal → Journal
  | [], _, j => j
  | c :: cs, w, j => recordAll cs (w.step c) (w.record j c)

/-- The journal of a history that starts with an empty workspace. -/
def journal (cs : List Command) : Journal := recordAll cs empty fun _ => none

/-- The objects that pasts lead to. -/
def Tells (j : Journal) (w : Workspace) : Prop := w.at? = Option.map Lineage.object ∘ j

theorem Tells.at?_eq {j : Journal} (h : Tells j w) (p : Place) :
    w.at? p = (j p).map Lineage.object :=
  congrFun h p

/-- The template that a test finds, by its past. -/
theorem Tells.find?_eq {j : Journal} (h : Tells j w) (test : Object → Bool) :
    w.catalog.templates.find? test = ((w.templatePlace? test).bind j).map Lineage.object := by
  rw [← templatePlace?_bind_at?, h, Option.map_bind]

namespace JournalLemmas

/-! ## Catalogs -/

theorem object_of_edits (handle : Handle) (owner : Option Owner) (es : List Object.Edit) :
    Lineage.object ⟨handle, owner, es.map .edit⟩ = (Object.new handle owner).editAll es :=
  List.foldl_map

theorem templates_of_ofDocument {d : Catalog.Document} {handle : Handle} {c : Catalog}
    (h : Catalog.ofDocument handle d = .ok c) :
    (c.templates[·]?) = Option.map Lineage.object ∘ d.lineage? handle := by
  funext i
  rw [Catalog.getElem?_templatesFrom (Catalog.ofDocument_eq_ok_iff.mp h), Function.comp_apply,
    Catalog.Document.lineage?, Option.map_bind]
  refine congrArg _ (funext fun definition => ?_)
  rw [Function.comp_apply, Option.map_map]
  refine congrArg (Option.map · _) (funext fun level => ?_)
  rw [Function.comp_apply, object_of_edits, build_eq_editAll]

/-! ## Pasts -/

theorem tells_update {j : Journal} {p : Place} {l : Option Lineage} {o : Option Object}
    (h : Tells j w) (ho : o = l.map Lineage.object) :
    Function.update w.at? p o = Option.map Lineage.object ∘ Function.update j p l := by
  rw [h, ho, Function.comp_update]

theorem map_object_andThen (l : Option Lineage) (e : Event) :
    (l.map (·.andThen e)).map Lineage.object = (l.map Lineage.object).map e.apply := by
  cases l <;> simp

theorem map_object_copiedFor (l : Option Lineage) (handle : Handle) (owner : Owner) :
    (l.map (·.copiedFor handle owner)).map Lineage.object =
      (l.map Lineage.object).map (·.copyFor handle owner) := by
  cases l <;> simp

end JournalLemmas

open JournalLemmas

/-! ## Commands -/

/-- What is noted of a command is what it does. -/
theorem tells_note {j : Journal} {c : Command} (h : Tells j w) (hc : Accepted w c w') :
    Tells (w.note j c) w' := by
  unfold Tells
  cases hc with
  | create slot owner =>
    rw [at?_useHandles, at?_put]
    exact tells_update h rfl
  | @copy source slot o ho =>
    rw [at?_useHandles, at?_put]
    refine tells_update h ?_
    rw [map_object_andThen, ← h.at?_eq, ho]
    rfl
  | @copyFor source slot owner o ho =>
    rw [at?_useHandles, at?_put]
    refine tells_update h ?_
    rw [map_object_copiedFor, ← h.at?_eq, ho]
    rfl
  | discard ho =>
    rw [at?_erase]
    exact tells_update h rfl
  | @edit slot e o o' ho he =>
    rw [at?_put]
    refine tells_update h ?_
    rw [map_object_andThen, ← h.at?_eq, ho]
    simp [Event.apply, Object.edit, he]
  | @copyProperty source sourceOperation property slot operation a o o' p ha hp ho he =>
    rw [at?_put]
    simp only [note, ha, Option.bind_some, hp, Option.elim_some]
    refine tells_update h ?_
    rw [map_object_andThen, ← h.at?_eq, ho]
    simp [Event.apply, Object.edit, he]
  | register number object => exact (at?_eq_of_eq rfl rfl).trans h
  | setProcessCell object => exact (at?_eq_of_eq rfl rfl).trans h
  | @loadCatalog document c hc =>
    rw [at?_useHandles, at?_addCatalog, templates_of_ofDocument hc, h, ← Place.comp_withCatalog]
    rfl
  | copyCatalog =>
    rw [at?_useHandles, at?_addCatalog]
    simp only [note, Place.comp_withCatalog]
    rw [← h]
    congr 1
    funext i
    rw [Function.comp_apply, map_object_andThen, ← h.at?_eq, at?_template_inUse]
    exact Catalog.getElem?_copies _ _ i
  | useCatalog position => exact (at?_eq_of_eq rfl rfl).trans h
  | @copyTemplate name slot o ho =>
    rw [at?_useHandles, at?_put]
    refine tells_update h ?_
    rw [map_object_andThen, ← h.find?_eq]
    exact congrArg (Option.map _) ho.symm
  | @instantiate basicName slot owner o ho =>
    rw [at?_useHandles, at?_put]
    refine tells_update h ?_
    rw [map_object_copiedFor, ← h.find?_eq]
    exact congrArg (Option.map _) ho.symm
  | setSettings settings => exact (at?_eq_of_eq rfl rfl).trans h

theorem tells_record {j : Journal} (h : Tells j w) (c : Command) :
    Tells (w.record j c) (w.step c) := by
  unfold record step
  cases hc : w.run c with
  | ok w' => exact tells_note h (accepted_of_run hc)
  | error r => exact (at?_useHandles _ _).trans h

theorem tells_recordAll (cs : List Command) {w : Workspace} {j : Journal} (h : Tells j w) :
    Tells (recordAll cs w j) (runAll cs w) := by
  induction cs generalizing w j with
  | nil => exact h
  | cons c cs ih => exact ih (tells_record h c)

/-! ## Histories -/

theorem at?_empty : empty.at? = fun _ => none := by
  funext p
  cases p with
  | slot name => exact Std.HashMap.getElem?_empty
  | template catalog index => rfl

/-- After every history the objects in all places are those that the journal tells of. -/
theorem at?_runAll (cs : List Command) (p : Place) :
    (runAll cs empty).at? p = (journal cs p).map Lineage.object :=
  (tells_recordAll cs (j := fun _ => none) at?_empty).at?_eq p

/-- What is true of new objects and is kept by edits and copies is true of every object after every
history. -/
theorem at?_induction {P : Object → Prop} (new : ∀ handle owner, P (Object.new handle owner))
    (edit : ∀ o e o', P o → o.edit? e = some o' → P o') (copy : ∀ o handle, P o → P (o.copy handle))
    {cs : List Command} {p : Place} {o : Object} (h : (runAll cs empty).at? p = some o) : P o := by
  rw [at?_runAll] at h
  obtain ⟨l, -, rfl⟩ := Option.map_eq_some_iff.mp h
  exact l.object_induction new edit copy

end Workspace

end Plant
