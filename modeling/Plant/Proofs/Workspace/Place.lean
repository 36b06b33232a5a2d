import Mathlib.Logic.Function.Basic
import Plant.Proofs.Catalog.Templates
import Plant.Workspace

/-!
# Places

A workspace keeps objects in its slots and, as templates, in its catalogs. A catalog never loses or
changes a template and no catalog is ever given up, so the place of a template stays its place. This
module says what each command does to the objects in all places at once.

Results:
1. `at?_put`, `at?_erase`, `at?_addCatalog`: the objects in all places after each elementary change.
2. `accepted_of_run`: what an accepted command found and what it made of the workspace.
-/
namespace Plant

/-- Where a workspace keeps an object: in a slot, or in a catalog, by the catalog's position and the
template's position in it. -/
inductive Place where
  | slot (name : String)
  | template (catalog index : Nat)
deriving DecidableEq, Repr

/-- What there is in all places when a catalog with the contents `new` is put at a position. -/
def Place.withCatalog {β : Type} (position : Nat) (new : Nat → β) (old : Place → β) : Place → β
  | slot name => old (slot name)
  | template catalog index =>
    if catalog = position then new index else old (template catalog index)

theorem Place.comp_withCatalog {β γ : Type} (f : β → γ) (position : Nat) (new : Nat → β)
    (old : Place → β) :
    f ∘ withCatalog position new old = withCatalog position (f ∘ new) (f ∘ old) := by
  funext p
  cases p with
  | slot name => rfl
  | template catalog index => exact apply_ite f _ _ _

namespace Workspace

variable {w w' : Workspace}

/-- The object in a place. -/
def at? (w : Workspace) : Place → Option Object
  | .slot name => w.objects[name]?
  | .template catalog index => w.catalogs[catalog]?.bind fun c => c.templates[index]?

/-- The place of the first template of the catalog in use that passes a test. -/
def templatePlace? (w : Workspace) (test : Object → Bool) : Option Place :=
  (w.catalog.templates.findIdx? test).map (.template w.inUse)

/-! ## Elementary changes -/

theorem at?_eq_of_eq (objects : w'.objects = w.objects) (catalogs : w'.catalogs = w.catalogs) :
    w'.at? = w.at? := by
  funext p
  cases p with
  | slot name => simp only [at?, objects]
  | template catalog index => simp only [at?, catalogs]

@[simp] theorem at?_useHandles (n : Nat) (w : Workspace) : (w.useHandles n).at? = w.at? :=
  at?_eq_of_eq rfl rfl

@[simp] theorem at?_put (slot : String) (o : Object) (w : Workspace) :
    (w.put slot o).at? = Function.update w.at? (.slot slot) (some o) := by
  funext p
  cases p with
  | slot name =>
    simp only [at?, put, Std.HashMap.getElem?_insert, Function.update_apply, Place.slot.injEq,
      beq_iff_eq, eq_comm (a := slot)]
  | template catalog index => rfl

@[simp] theorem at?_erase (slot : String) (w : Workspace) :
    { w with objects := w.objects.erase slot }.at? = Function.update w.at? (.slot slot) none := by
  funext p
  cases p with
  | slot name =>
    simp only [at?, Std.HashMap.getElem?_erase, Function.update_apply, Place.slot.injEq,
      beq_iff_eq, eq_comm (a := slot)]
  | template catalog index => rfl

@[simp] theorem at?_addCatalog (c : Catalog) (w : Workspace) :
    (w.addCatalog c).at? = Place.withCatalog w.catalogs.length (c.templates[·]?) w.at? := by
  funext p
  cases p with
  | slot name => rfl
  | template catalog index =>
    simp only [at?, addCatalog, Place.withCatalog]
    rcases Nat.lt_trichotomy catalog w.catalogs.length with h | h | h
    · rw [List.getElem?_append_left h, if_neg (Nat.ne_of_lt h)]
    · rw [if_pos h, h, List.getElem?_concat_length]
      rfl
    · rw [if_neg (Nat.ne_of_gt h), List.getElem?_eq_none (by rw [List.length_append]; exact h),
        List.getElem?_eq_none (Nat.le_of_lt h)]

/-! ## Templates of the catalog in use -/

theorem at?_template_inUse (w : Workspace) (index : Nat) :
    w.at? (.template w.inUse index) = w.catalog.templates[index]? := by
  show w.catalogs[w.inUse]?.bind _ = _
  unfold catalog
  cases w.catalogs[w.inUse]? <;> rfl

theorem templatePlace?_bind_at? (w : Workspace) (test : Object → Bool) :
    (w.templatePlace? test).bind w.at? = w.catalog.templates.find? test := by
  rw [List.find?_eq_bind_findIdx?_getElem?, templatePlace?, Option.bind_map]
  exact congrArg _ (funext fun i => at?_template_inUse w i)

/-! ## Commands -/

/-- What an accepted command finds, and what the workspace is after it. -/
inductive Accepted (w : Workspace) : Command → Workspace → Prop
  | create (slot : String) (owner : Option Owner) :
      Accepted w (.create slot owner) ((w.put slot (Object.new w.nextHandle owner)).useHandles 1)
  | copy {source slot : String} {o : Object} : w.at? (.slot source) = some o →
      Accepted w (.copy source slot) ((w.put slot (o.copy w.nextHandle)).useHandles 1)
  | copyFor {source slot : String} {owner : Owner} {o : Object} : w.at? (.slot source) = some o →
      Accepted w (.copyFor source owner slot)
        ((w.put slot (o.copyFor w.nextHandle owner)).useHandles 1)
  | discard {slot : String} {o : Object} : w.at? (.slot slot) = some o →
      Accepted w (.discard slot) { w with objects := w.objects.erase slot }
  | edit {slot : String} {e : Object.Edit} {o o' : Object} : w.at? (.slot slot) = some o →
      o.edit? e = some o' → Accepted w (.edit slot e) (w.put slot o')
  | copyProperty {source sourceOperation property slot operation : String} {a o o' : Object}
      {p : Parameter} : w.at? (.slot source) = some a →
      (a.operation? sourceOperation).bind (·.property? property) = some p →
      w.at? (.slot slot) = some o →
      o.edit? (.editOperation (.named operation) (.addProperty p)) = some o' →
      Accepted w (.copyProperty source sourceOperation property slot operation) (w.put slot o')
  | register (number : UInt64) (object : Registered) :
      Accepted w (.register number object) { w with registry := w.registry.insert number object }
  | setProcessCell (object : Option Registered) :
      Accepted w (.setProcessCell object) { w with registry := w.registry.setProcessCell object }
  | loadCatalog {document : Catalog.Document} {c : Catalog} :
      Catalog.ofDocument w.nextHandle document = .ok c →
      Accepted w (.loadCatalog document) ((w.addCatalog c).useHandles c.size)
  | copyCatalog :
      Accepted w .copyCatalog
        ((w.addCatalog (w.catalog.copy w.nextHandle)).useHandles w.catalog.size)
  | useCatalog (position : Nat) : Accepted w (.useCatalog position) { w with inUse := position }
  | copyTemplate {name slot : String} {o : Object} : w.catalog.template? name = some o →
      Accepted w (.copyTemplate name slot) ((w.put slot (o.copy w.nextHandle)).useHandles 1)
  | instantiate {basicName slot : String} {owner : Owner} {o : Object} :
      w.catalog.templateByBasicName? basicName = some o →
      Accepted w (.instantiate basicName owner slot)
        ((w.put slot (o.copyFor w.nextHandle owner)).useHandles 1)
  | setSettings (settings : Settings) : Accepted w (.setSettings settings) { w with settings }

theorem object_eq_ok_iff {slot : String} {o : Object} :
    w.object slot = .ok o ↔ w.at? (.slot slot) = some o := by
  show _ ↔ w.objects[slot]? = some o
  unfold object
  cases w.objects[slot]? <;> simp

theorem editObject_eq_ok {slot : String} {e : Object.Edit} (h : w.editObject slot e = .ok w') :
    ∃ o o', w.at? (.slot slot) = some o ∧ o.edit? e = some o' ∧ w' = w.put slot o' := by
  obtain ⟨o, ho, h⟩ := bind_eq_ok h
  split at h
  · next o' ho' =>
    cases h
    exact ⟨o, o', object_eq_ok_iff.mp ho, ho', rfl⟩
  · cases h

theorem accepted_of_run {c : Command} (h : w.run c = .ok w') : Accepted w c w' := by
  cases c with
  | create slot owner =>
    cases h
    exact .create slot owner
  | copy source slot =>
    obtain ⟨o, ho, h⟩ := bind_eq_ok h
    cases h
    exact .copy (object_eq_ok_iff.mp ho)
  | copyFor source owner slot =>
    obtain ⟨o, ho, h⟩ := bind_eq_ok h
    cases h
    exact .copyFor (object_eq_ok_iff.mp ho)
  | discard slot =>
    obtain ⟨o, ho, h⟩ := bind_eq_ok h
    cases h
    exact .discard (object_eq_ok_iff.mp ho)
  | edit slot e =>
    obtain ⟨o, o', ho, he, rfl⟩ := editObject_eq_ok h
    exact .edit ho he
  | copyProperty source sourceOperation property slot operation =>
    obtain ⟨a, ha, h⟩ := bind_eq_ok h
    split at h
    · next p hp =>
      obtain ⟨o, o', ho, he, rfl⟩ := editObject_eq_ok h
      exact .copyProperty (object_eq_ok_iff.mp ha) hp ho he
    · cases h
  | register number object =>
    cases h
    exact .register number object
  | setProcessCell object =>
    cases h
    exact .setProcessCell object
  | loadCatalog document =>
    simp only [run] at h
    split at h
    · next c hc =>
      cases h
      exact .loadCatalog hc
    · cases h
  | copyCatalog =>
    cases h
    exact .copyCatalog
  | useCatalog position =>
    simp only [run] at h
    split at h
    · cases h
      exact .useCatalog position
    · cases h
  | copyTemplate name slot =>
    simp only [run] at h
    split at h
    · next o ho =>
      cases h
      exact .copyTemplate ho
    · cases h
  | instantiate basicName owner slot =>
    simp only [run, Catalog.instantiate?] at h
    split at h
    · next o ho =>
      cases h
      obtain ⟨t, ht, rfl⟩ := Option.map_eq_some_iff.mp ho
      exact .instantiate ht
    · cases h
  | setSettings settings =>
    cases h
    exact .setSettings settings

end Workspace

end Plant
