import Plant.Proofs.Workspace.Handles

/-!
# Commands on one object

Most commands make, change or drop the object in one slot and do nothing else. What they leave in
the slot is determined by the objects that they look at, the catalog in use and, if they make an
object, the next handle.

Results:
1. `run_eq`: a command on one slot does nothing but put its result there and use up a handle.
2. `at?_step`, `at?_runAll_of_target`: the other places stay as they are.
3. `result_congr`, `result_of_taken_eq_zero`: what the result of a command depends on.
-/
namespace Plant.Workspace

variable {w w' w'' : Workspace} {c d : Command} {s t : String}

/-! ## Definitions -/

/-- The slot that a command fills or empties; none if it changes no single object. -/
def Command.target? : Command → Option String
  | create slot _ => some slot
  | copy _ slot => some slot
  | copyFor _ _ slot => some slot
  | discard slot => some slot
  | edit slot _ => some slot
  | copyProperty _ _ _ slot _ => some slot
  | copyTemplate _ slot => some slot
  | instantiate _ _ slot => some slot
  | _ => none

/-- The slots whose objects a command looks at. -/
def Command.sources : Command → List String
  | copy source _ => [source]
  | copyFor source _ _ => [source]
  | discard slot => [slot]
  | edit slot _ => [slot]
  | copyProperty source _ _ slot _ => [source, slot]
  | _ => []

/-- What an edit makes of the object in a slot. -/
def edited (slot : String) (e : Object.Edit) (w : Workspace) : Except Refusal (Option Object) := do
  let o ← w.object slot
  match o.edit? e with
  | some o => .ok o
  | none => .error .noMatch

/-- What a command leaves in its slot, if a handle is given to what it makes. -/
def Command.result (w : Workspace) (handle : Handle) : Command → Except Refusal (Option Object)
  | create _ owner => .ok (Object.new handle owner)
  | copy source _ => do
    let o ← w.object source
    .ok (o.copy handle)
  | copyFor source owner _ => do
    let o ← w.object source
    .ok (o.copyFor handle owner)
  | discard slot => do
    let _ ← w.object slot
    .ok none
  | edit slot e => w.edited slot e
  | copyProperty source sourceOperation property slot operation => do
    let a ← w.object source
    match (a.operation? sourceOperation).bind (·.property? property) with
    | some p => w.edited slot (.editOperation (.named operation) (.addProperty p))
    | none => .error .noMatch
  | copyTemplate name _ => match w.catalog.template? name with
    | some o => .ok (o.copy handle)
    | none => .error .noMatch
  | instantiate basicName owner _ => match w.catalog.instantiate? basicName handle owner with
    | some o => .ok o
    | none => .error .noMatch
  | _ => .error .noMatch

/-- Fills or empties a slot. -/
def fill (slot : String) (o : Option Object) (w : Workspace) : Workspace :=
  o.elim { w with objects := w.objects.erase slot } (w.put slot)

/-- What is in the slot of a command after it. -/
def Command.content (c : Command) (w : Workspace) (handle : Handle) (s : String) : Option Object :=
  match c.result w handle with
  | .ok o => o
  | .error _ => w.at? (.slot s)

/-- What there is beside the objects in the slots is the same. -/
structure SameAround (w w' : Workspace) : Prop where
  catalogs : w'.catalogs = w.catalogs
  inUse : w'.inUse = w.inUse
  registry : w'.registry = w.registry
  settings : w'.settings = w.settings

namespace ResultLemmas

/-! ## The result of a command -/

theorem at?_fill (slot : String) (o : Option Object) (w : Workspace) :
    (w.fill slot o).at? = Function.update w.at? (.slot slot) o := by
  cases o with
  | none => exact at?_erase slot w
  | some o => exact at?_put slot o w

theorem useHandles_zero (w : Workspace) : w.useHandles 0 = w := by
  rw [useHandles, Handle.advance_zero]

theorem editObject_eq (slot : String) (e : Object.Edit) (w : Workspace) :
    w.editObject slot e = (w.edited slot e).map (w.fill slot ·) := by
  rw [editObject, edited]
  cases w.object slot with
  | error r => rfl
  | ok o => cases he : o.edit? e <;> simp [bind, Except.bind, Except.map, he, fill]

end ResultLemmas

open ResultLemmas

theorem run_eq (hs : c.target? = some s) :
    w.run c = (c.result w w.nextHandle).map fun o => (w.fill s o).useHandles (c.made w) := by
  have kept (o : Option Object) : (w.fill s o).useHandles 0 = w.fill s o := useHandles_zero _
  cases c with
  | create slot owner =>
    cases hs
    rfl
  | copy source slot | copyFor source owner slot =>
    cases hs
    rw [run, Command.result]
    cases w.object source <;> rfl
  | discard slot =>
    cases hs
    show _ = Except.map (fun o => (w.fill s o).useHandles 0) _
    simp only [kept, run, Command.result]
    cases w.object s <;> rfl
  | edit slot e =>
    cases hs
    show _ = Except.map (fun o => (w.fill s o).useHandles 0) _
    simp only [kept]
    exact editObject_eq s e w
  | copyProperty source sourceOperation property slot operation =>
    cases hs
    show _ = Except.map (fun o => (w.fill s o).useHandles 0) _
    simp only [kept, run, Command.result]
    cases w.object source with
    | error r => rfl
    | ok a =>
      cases hp : (a.operation? sourceOperation).bind (·.property? property) with
      | none => simp [bind, Except.bind, Except.map, hp]
      | some p => simp [bind, Except.bind, hp, editObject_eq]
  | copyTemplate name slot =>
    cases hs
    rw [run, Command.result]
    cases w.catalog.template? name <;> rfl
  | instantiate basicName owner slot =>
    cases hs
    rw [run, Command.result]
    cases w.catalog.instantiate? basicName w.nextHandle owner <;> rfl
  | register | setProcessCell | loadCatalog | copyCatalog | useCatalog | setSettings => cases hs

theorem begun_of_target (hs : c.target? = some s) : c.begun = 0 := by
  cases c with
  | loadCatalog document => cases hs
  | _ => rfl

theorem step_eq (hs : c.target? = some s) :
    w.step c = (match c.result w w.nextHandle with
      | .ok o => w.fill s o
      | .error _ => w).useHandles (w.taken c) := by
  unfold step taken
  rw [run_eq hs]
  cases c.result w w.nextHandle with
  | ok o => rfl
  | error r => rfl

theorem at?_step (hs : c.target? = some s) :
    (w.step c).at? = Function.update w.at? (.slot s) (c.content w w.nextHandle s) := by
  rw [step_eq hs, at?_useHandles, Command.content]
  split
  · exact at?_fill ..
  · exact (Function.update_eq_self ..).symm

theorem nextHandle_step (hs : c.target? = some s) :
    (w.step c).nextHandle = w.nextHandle.advance (w.taken c) := by
  rw [step_eq hs]
  split
  case h_1 o _ => cases o <;> rfl
  case h_2 => rfl

theorem sameAround_step (hs : c.target? = some s) : SameAround w (w.step c) := by
  rw [step_eq hs]
  split
  case h_1 o _ => cases o <;> exact ⟨rfl, rfl, rfl, rfl⟩
  case h_2 => exact ⟨rfl, rfl, rfl, rfl⟩

/-! ## What a result depends on -/

theorem SameAround.symm (h : SameAround w w') : SameAround w' w :=
  ⟨h.catalogs.symm, h.inUse.symm, h.registry.symm, h.settings.symm⟩

theorem SameAround.trans (h : SameAround w w') (h' : SameAround w' w'') :
    SameAround w w'' :=
  ⟨h'.catalogs.trans h.catalogs, h'.inUse.trans h.inUse, h'.registry.trans h.registry,
    h'.settings.trans h.settings⟩

theorem SameAround.catalog (h : SameAround w w') : w'.catalog = w.catalog := by
  rw [Workspace.catalog, Workspace.catalog, h.catalogs, h.inUse]

theorem object_congr (h : w'.at? (.slot s) = w.at? (.slot s)) :
    w'.object s = w.object s := by
  have same : w'.objects[s]? = w.objects[s]? := h
  rw [object, object, same]

theorem result_congr (around : SameAround w w')
    (sources : ∀ s ∈ c.sources, w'.at? (.slot s) = w.at? (.slot s)) (handle : Handle) :
    c.result w' handle = c.result w handle := by
  cases c with
  | copy source | copyFor source | discard source | edit source =>
    have source := object_congr (sources _ (List.mem_singleton_self _))
    simp only [Command.result, edited, source]
  | copyProperty source sourceOperation property slot operation =>
    have source := object_congr (sources _ List.mem_cons_self)
    have slot := object_congr (sources _ (List.mem_cons_of_mem _ (List.mem_singleton_self _)))
    simp only [Command.result, edited, source, slot]
  | copyTemplate | instantiate => simp only [Command.result, around.catalog]
  | create | register | setProcessCell | loadCatalog | copyCatalog | useCatalog | setSettings => rfl

/-- Whether a command is refused does not depend on the handle. -/
theorem result_eq_error_iff (handle handle' : Handle) {r : Refusal} :
    c.result w handle = .error r ↔ c.result w handle' = .error r := by
  cases c with
  | copy source | copyFor source =>
    simp only [Command.result]
    cases w.object source <;> simp [bind, Except.bind]
  | copyTemplate name =>
    simp only [Command.result]
    cases w.catalog.template? name <;> simp
  | instantiate basicName =>
    simp only [Command.result, Catalog.instantiate?]
    cases w.catalog.templateByBasicName? basicName <;> simp
  | create => simp [Command.result]
  | _ => exact Iff.rfl

/-- A command that takes no handle does the same whatever the next handle is. -/
theorem result_of_taken_eq_zero (idle : w.taken c = 0) (hs : c.target? = some s)
    (handle : Handle) : c.result w handle = c.result w w.nextHandle := by
  cases hr : c.result w w.nextHandle with
  | error r => exact (result_eq_error_iff ..).mp hr
  | ok o =>
    have made : c.made w = 0 := by
      rw [taken, run_eq hs, hr] at idle
      exact idle
    rw [← hr]
    cases c with
    | create | copy | copyFor | copyTemplate | instantiate => cases made
    | _ => rfl

/-- A command makes the same before and after one that takes no handle, or if it takes none
itself. -/
theorem content_advance (hs : c.target? = some s) (idle : w.taken c = 0 ∨ w.taken d = 0) :
    c.content w (w.nextHandle.advance (w.taken d)) s = c.content w w.nextHandle s := by
  cases idle with
  | inl idle => rw [Command.content, Command.content, result_of_taken_eq_zero idle hs]
  | inr idle => rw [idle, Handle.advance_zero]

/-! ## Histories -/

/-- Commands on one slot leave all other places as they are. -/
theorem at?_runAll_of_target {later : List Command} (hs : ∀ c ∈ later, c.target? = some s)
    (w : Workspace) {p : Place} (hp : p ≠ .slot s) : (runAll later w).at? p = w.at? p := by
  induction later generalizing w with
  | nil => rfl
  | cons c later ih =>
    rw [List.forall_mem_cons] at hs
    rw [← Function.update_of_ne hp (c.content w w.nextHandle s) w.at?, ← at?_step hs.1]
    exact ih hs.2 (w.step c)

theorem sameAround_runAll_of_target {later : List Command} (hs : ∀ c ∈ later, c.target? = some s)
    (w : Workspace) : SameAround w (runAll later w) := by
  induction later generalizing w with
  | nil => exact ⟨rfl, rfl, rfl, rfl⟩
  | cons c later ih =>
    rw [List.forall_mem_cons] at hs
    exact (sameAround_step hs.1).trans (ih hs.2 (w.step c))

end Plant.Workspace
