import Plant.Proofs.Catalog.Definitions
import Plant.Proofs.Workspace.Copies

/-!
# Instances of templates

What is made of a template depends on the template only, and that is for good what its document
says. A catalog is never changed, and a copy of a catalog has templates that are like those of the
original, so it does not matter when an instance is made, from which of the copies, or what has been
done to other instances.

Results:
1. `catalogs_prefix_step`: no command changes a catalog.
2. `stocks_runAll`: the catalogs that go back to a loaded one keep templates like its own.
3. `instantiate_exact`: what an instance is like, at any time after its document was loaded.
-/
namespace Plant

/-! ## Definitions -/

/-- The object is a template for an owner: it is like the template, but that it and its groups
belong to the owner; all its parts point back to it, and the next system parameter gets the index
that the template would give it. -/
structure Object.InstanceOf (t : Object) (owner : Owner) (o : Object) : Prop where
  alike : o.Alike Eq
    { t with owner := some owner, groups := t.groups.map fun g => { g with owner := some owner } }
  linked : o.Linked
  nextIndex : o.systemParameters.nextIndex = t.systemParameters.nextIndex

namespace Workspace

variable {w : Workspace} {positions : List Nat} {ts : List Object}

/-- The positions of the catalogs that go back to those at some positions, after a command: a copy
of one of them is one of them. -/
def kin (w : Workspace) (positions : List Nat) : Command → List Nat
  | .copyCatalog => if w.inUse ∈ positions then w.catalogs.length :: positions else positions
  | _ => positions

/-- The positions of the catalogs that go back to those at some positions, after a history. -/
def kinAll : List Command → Workspace → List Nat → List Nat
  | [], _, positions => positions
  | c :: cs, w, positions => kinAll cs (w.step c) (w.kin positions c)

/-- The workspace in which a document was loaded after a history, and then more was done. -/
def afterLoading (before : List Command) (document : Catalog.Document) (later : List Command) :
    Workspace :=
  runAll (before ++ .loadCatalog document :: later) empty

/-- After all that was done, the catalog in use is that of the document or goes back to it. -/
def Offers (before : List Command) (document : Catalog.Document) (later : List Command) : Prop :=
  (afterLoading before document later).inUse ∈
    kinAll later (afterLoading before document []) [(runAll before empty).catalogs.length]

/-- The command is not one that loads a catalog or takes another one into use. -/
def Command.staysWithCatalog : Command → Bool
  | .loadCatalog _ => false
  | .useCatalog _ => false
  | _ => true

/-- The catalogs at these positions have templates that are like the given ones. -/
def Stocks (w : Workspace) (positions : List Nat) (ts : List Object) : Prop :=
  ∀ i ∈ positions, ∃ c, w.catalogs[i]? = some c ∧ List.Forall₂ (Object.Alike Eq) c.templates ts

/-! ## Catalogs of a history -/

/-- Catalogs are added and never changed. -/
theorem catalogs_prefix_step (w : Workspace) (c : Command) :
    w.catalogs <+: (w.step c).catalogs := by
  unfold step
  cases hc : w.run c with
  | error r => exact List.prefix_rfl
  | ok w' =>
    cases accepted_of_run hc with
    | loadCatalog | copyCatalog => exact List.prefix_append _ _
    | _ => exact List.prefix_rfl

namespace InstanceLemmas

theorem forall₂_copies {os : List Object} (h : List.Forall₂ (Object.Alike Eq) os ts)
    (handle : Handle) : List.Forall₂ (Object.Alike Eq) (Catalog.copies handle os) ts := by
  induction h generalizing handle with
  | nil => exact .nil
  | cons h _ ih => exact .cons ((Object.alike_copy_left handle).mpr h) (ih handle.next)

/-- A command takes the handles of what it makes, or of what it has begun to make. -/
theorem taken_le (w : Workspace) (c : Command) : w.taken c ≤ c.made w + c.begun := by
  unfold taken
  split
  · exact Nat.le_add_right ..
  · exact Nat.le_add_left ..

theorem catalog_eq {c : Catalog} (h : w.catalogs[w.inUse]? = some c) : w.catalog = c := by
  rw [catalog, h, Option.getD_some]

end InstanceLemmas

open InstanceLemmas

theorem stocks_step (h : w.Stocks positions ts) (c : Command) :
    (w.step c).Stocks (w.kin positions c) ts := by
  have old : (w.step c).Stocks positions ts := by
    intro i hi
    obtain ⟨catalog, hcatalog, alike⟩ := h i hi
    obtain ⟨new, hnew⟩ := catalogs_prefix_step w c
    rw [← hnew, List.getElem?_append_left (List.getElem?_eq_some_iff.mp hcatalog).1]
    exact ⟨catalog, hcatalog, alike⟩
  cases c with
  | copyCatalog =>
    show Stocks _ (if w.inUse ∈ positions then _ else _) ts
    split
    case isFalse => exact old
    case isTrue used =>
      intro i hi
      rcases List.mem_cons.mp hi with rfl | hi
      · -- the copy stands behind the catalogs that there were
        obtain ⟨catalog, hcatalog, alike⟩ := h _ used
        refine ⟨w.catalog.copy w.nextHandle, List.getElem?_concat_length, ?_⟩
        rw [catalog_eq hcatalog]
        exact forall₂_copies alike _
      · exact old i hi
  | _ => exact old

theorem stocks_runAll (later : List Command) {w : Workspace} {positions : List Nat}
    (h : w.Stocks positions ts) : (runAll later w).Stocks (kinAll later w positions) ts := by
  induction later generalizing w positions with
  | nil => exact h
  | cons c later ih => exact ih (stocks_step h c)

/-- Without a command that takes another catalog into use, the one that was in use stays in use, or
a copy that goes back to it is. -/
theorem inUse_step (h : w.inUse ∈ positions) {c : Command} (stays : c.staysWithCatalog = true) :
    (w.step c).inUse ∈ w.kin positions c := by
  cases c with
  | copyCatalog =>
    show w.catalogs.length ∈ if w.inUse ∈ positions then _ else _
    rw [if_pos h]
    exact List.mem_cons_self
  | loadCatalog | useCatalog => cases stays
  | _ =>
    unfold step
    split
    case h_2 => exact h
    case h_1 w' hw' => (cases accepted_of_run hw'; exact h)

theorem inUse_runAll {later : List Command} (stays : ∀ c ∈ later, c.staysWithCatalog = true)
    {w : Workspace} {positions : List Nat} (h : w.inUse ∈ positions) :
    (runAll later w).inUse ∈ kinAll later w positions := by
  induction later generalizing w positions with
  | nil => exact h
  | cons c later ih =>
    rw [List.forall_mem_cons] at stays
    exact ih stays.2 (inUse_step h stays.1)

/-! ## After a document was loaded -/

section Loaded

variable {before later : List Command} {document : Catalog.Document} {c : Catalog}

theorem afterLoading_eq (before : List Command) (document : Catalog.Document)
    (later : List Command) :
    afterLoading before document later = runAll later (afterLoading before document []) := by
  rw [afterLoading, afterLoading, runAll, runAll, runAll, List.foldl_append, List.foldl_append]
  rfl

theorem loaded_eq (hc : Catalog.ofDocument (runAll before empty).nextHandle document = .ok c) :
    afterLoading before document [] = ((runAll before empty).addCatalog c).useHandles c.size := by
  have accepted : (runAll before empty).run (.loadCatalog document) =
      .ok (((runAll before empty).addCatalog c).useHandles c.size) := by
    simp only [run, hc]
  rw [afterLoading, runAll, List.foldl_append]
  show step (runAll before empty) _ = _
  rw [step, accepted]

/-- The catalog of the document is offered as long as no other one is taken into use. -/
theorem offers_of_staysWithCatalog
    (hc : Catalog.ofDocument (runAll before empty).nextHandle document = .ok c)
    (stays : ∀ c ∈ later, c.staysWithCatalog = true) : Offers before document later := by
  have loaded :
      (afterLoading before document []).inUse ∈ [(runAll before empty).catalogs.length] := by
    rw [loaded_eq hc]
    exact List.mem_singleton_self _
  have used := inUse_runAll stays loaded
  rwa [← afterLoading_eq] at used

theorem stocks_loaded (hc : Catalog.ofDocument (runAll before empty).nextHandle document = .ok c) :
    (afterLoading before document []).Stocks [(runAll before empty).catalogs.length]
      c.templates := by
  intro i hi
  rw [List.mem_singleton.mp hi, loaded_eq hc]
  exact ⟨c, List.getElem?_concat_length, List.forall₂_same.mpr fun _ _ => Object.alike_self rfl⟩

/-- The templates of the catalog in use are like those that were loaded. -/
theorem alike_templates
    (hc : Catalog.ofDocument (runAll before empty).nextHandle document = .ok c)
    (offers : Offers before document later) :
    List.Forall₂ (Object.Alike Eq) (afterLoading before document later).catalog.templates
      c.templates := by
  have stocks := stocks_runAll later (stocks_loaded hc)
  rw [← afterLoading_eq] at stocks
  obtain ⟨catalog, hcatalog, alike⟩ := stocks _ offers
  rwa [catalog_eq hcatalog]

/-- The catalog in use answers a request with what is like the template that was loaded. -/
theorem rel_templateByBasicName?
    (hc : Catalog.ofDocument (runAll before empty).nextHandle document = .ok c)
    (offers : Offers before document later) (basicName : String) :
    Option.Rel (Object.Alike Eq)
      ((afterLoading before document later).catalog.templateByBasicName? basicName)
      (c.templateByBasicName? basicName) :=
  rel_find? (fun _ _ h => by rw [h.basicName]) (alike_templates hc offers)

/-- What the catalog in use makes of a template is an instance of the one that was loaded. -/
theorem instanceOf_instantiate?
    (hc : Catalog.ofDocument (runAll before empty).nextHandle document = .ok c)
    (offers : Offers before document later) {basicName : String} {t : Object}
    (ht : c.templateByBasicName? basicName = some t) (handle : Handle) (owner : Owner) :
    ∃ o, (afterLoading before document later).catalog.instantiate? basicName handle owner = some o ∧
      t.InstanceOf owner o ∧ o.handle = handle := by
  have rel := rel_templateByBasicName? hc offers basicName
  rw [ht] at rel
  generalize hfound : (afterLoading before document later).catalog.templateByBasicName? basicName =
    found at rel
  cases rel with
  | @some t' _ alike =>
    have linked : t'.Linked := by
      obtain ⟨i, hi⟩ := List.mem_iff_getElem?.mp (List.mem_of_find?_eq_some hfound)
      rw [← at?_template_inUse] at hi
      exact linked_runAll hi
    refine ⟨t'.copyFor handle owner, by rw [Catalog.instantiate?, hfound]; rfl, ?_, rfl⟩
    exact {
      alike := ((Object.alike_copy_left handle).mpr alike).setOwner (some owner)
      linked := (linked.copy handle).setOwner (some owner)
      nextIndex := congrArg SystemParameters.nextIndex alike.systemParameters }

theorem at?_step_instantiate {basicName : String} {owner : Owner} {o : Object}
    (ho : w.catalog.instantiate? basicName w.nextHandle owner = some o) (slot : String) :
    (w.step (.instantiate basicName owner slot)).at? =
      Function.update w.at? (.slot slot) (some o) := by
  have accepted : w.run (.instantiate basicName owner slot) =
      .ok ((w.put slot o).useHandles 1) := by
    simp only [run, ho]
  rw [step, accepted]
  simp

theorem run_instantiate_eq_error_iff {basicName : String} {owner : Owner} {slot : String} :
    w.run (.instantiate basicName owner slot) = .error .noMatch ↔
      w.catalog.templateByBasicName? basicName = none := by
  simp only [run, Catalog.instantiate?]
  cases w.catalog.templateByBasicName? basicName <;> simp

/-- The template of a definition is the one at its position, and its level is known. -/
theorem getElem?_templates
    (hc : Catalog.ofDocument (runAll before empty).nextHandle document = .ok c) {i : Nat}
    {d : Catalog.Definition} (hd : document.templates[i]? = some d) :
    ∃ level, d.level.resolve = .ok level ∧
      c.templates[i]? = some (d.build ((runAll before empty).nextHandle.advance i) level) :=
  Catalog.exists_template (Catalog.ofDocument_eq_ok_iff.mp hc) hd

theorem templateByBasicName?_eq_none_iff
    (hc : Catalog.ofDocument (runAll before empty).nextHandle document = .ok c)
    (offers : Offers before document later) (basicName : String) :
    (afterLoading before document later).catalog.templateByBasicName? basicName = none ↔
      ∀ d ∈ document.templates, d.basicName ≠ basicName := by
  have rel := isSome_eq_of_rel (rel_templateByBasicName? hc offers basicName)
  have names := Catalog.basicNames_templatesFrom (Catalog.ofDocument_eq_ok_iff.mp hc)
  rw [← Option.not_isSome_iff_eq_none, rel, Option.not_isSome_iff_eq_none,
    Catalog.templateByBasicName?, List.find?_eq_none]
  simp only [beq_iff_eq]
  rw [← List.forall_mem_map (P := (· ≠ basicName)), names, List.forall_mem_map]

end Loaded

/-! ## Instances -/

/-- At any time after a document was loaded, while its catalog or one that goes back to it is in
use: an instance is refused exactly if no definition has the name that is asked for. Otherwise it is
an instance of the template that was built of the first one, with a handle that no other object has
as long as handles have not run out; the template in the catalog stays as it was built, and belongs
to nobody. Instances for one owner that are made after any two histories are equal exactly if there
is no NaN in the template. -/
theorem instantiate_exact {before : List Command} {document : Catalog.Document} {c : Catalog}
    (hc : Catalog.ofDocument (runAll before empty).nextHandle document = .ok c)
    {later : List Command} (offers : Offers before document later) (basicName : String)
    (owner : Owner) :
    let w := afterLoading before document later
    (∀ slot, w.run (.instantiate basicName owner slot) = .error .noMatch ↔
        ∀ d ∈ document.templates, d.basicName ≠ basicName) ∧
      ∀ i d, document.templates.findIdx? (·.basicName == basicName) = some i →
        document.templates[i]? = some d →
        ∃ level t o, d.level.resolve = .ok level ∧
          t = d.build ((runAll before empty).nextHandle.advance i) level ∧
          c.templates[i]? = some t ∧
          w.catalog.instantiate? basicName w.nextHandle owner = some o ∧
          t.InstanceOf owner o ∧
          (takenAll (before ++ .loadCatalog document :: later) empty < 2 ^ 64 - 1 →
            ∀ p x, w.at? p = some x → x.handle ≠ o.handle) ∧
          (∀ slot,
            (w.step (.instantiate basicName owner slot)).at? (.slot slot) = some o ∧
            ∃ t', (w.step (.instantiate basicName owner slot)).at? (.template w.inUse i) = some t' ∧
              t'.Alike Eq t ∧ t'.owner = none) ∧
          ∀ later', Offers before document later' → ∀ handle, ∃ o',
            (afterLoading before document later').catalog.instantiate? basicName handle owner =
              some o' ∧
            ((o == o') = true ↔ ∀ s ∈ t.systemParameters.entries, s.value.isNaN = false) := by
  intro w
  have found := Catalog.templateByBasicName?_of_templatesFrom (Catalog.ofDocument_eq_ok_iff.mp hc)
    basicName
  refine ⟨fun slot => ?_, fun i d hi hd => ?_⟩
  · exact run_instantiate_eq_error_iff.trans (templateByBasicName?_eq_none_iff hc offers basicName)
  · obtain ⟨level, hlevel, ht⟩ := getElem?_templates hc hd
    rw [hi, Option.bind_some, ht] at found
    obtain ⟨o, ho, instanceOf, handle⟩ :=
      instanceOf_instantiate? hc offers found w.nextHandle owner
    refine ⟨level, _, o, hlevel, rfl, ht, ho, instanceOf, ?_, fun slot => ?_, ?_⟩
    · intro room p x hx
      rw [handle]
      exact (handle_ne_nextHandle room hx).symm
    · rw [at?_step_instantiate ho]
      refine ⟨Function.update_self .., ?_⟩
      have rel := rel_getElem? (alike_templates hc offers) i
      rw [ht, ← at?_template_inUse] at rel
      rw [Function.update_of_ne Place.noConfusion]
      generalize w.at? (.template w.inUse i) = place at rel ⊢
      cases rel with
      | @some t' _ alike =>
        exact ⟨t', rfl, alike, alike.owner.trans (Catalog.defines_build hlevel _).owner⟩
    · intro later' offers' handle'
      obtain ⟨o', ho', instanceOf', -⟩ := instanceOf_instantiate? hc offers' found handle' owner
      refine ⟨o', ho', ?_⟩
      rw [Object.beq_iff_of_alike (Object.alike_of_common instanceOf.alike instanceOf'.alike),
        instanceOf'.alike.systemParameters]

/-- A document with two vessels, one of which has parts. -/
def stock : Catalog.Document where
  templates :=
    [{ name := "Tank", eplanName := "TANK", level := .number 1, basicName := "vessel",
       bindingName := "", isPid := false,
       operations := [⟨"FILL", "Filling", 1, [⟨"speed", "Speed", "50", .active⟩]⟩],
       equipment := [⟨"valve", "Valve", "V1"⟩], aggregateParameters := [], mainParameter := none,
       groups := [⟨"lines", "Lines", "all"⟩], systemParameters := [⟨"p", "Pressure", ⟨0⟩, "bar"⟩] },
     { name := "Silo", eplanName := "", level := .number 7, basicName := "vessel",
       bindingName := "", isPid := false, operations := [], equipment := [], aggregateParameters := [],
       mainParameter := none, groups := [], systemParameters := [] }]

/-- An instance is made and changed. -/
def busy : List Command :=
  [.instantiate "vessel" ⟨3⟩ "tank", .edit "tank" (.addEquipment "lid" "Lid" "L1"),
    .edit "tank" (.editEquipment (.named "valve") ⟨some "V2", none⟩)]

theorem instantiate_exact_stock :
    Offers [] stock busy ∧ Offers [] stock (.copyCatalog :: busy) ∧
      (afterLoading [] stock busy).run (.instantiate "pump" ⟨3⟩ "pump") = .error .noMatch ∧
      ∃ c t o o', Catalog.ofDocument .first stock = .ok c ∧ c.templates[0]? = some t ∧
        (afterLoading [] stock busy).catalog.instantiate? "vessel"
          (afterLoading [] stock busy).nextHandle ⟨3⟩ = some o ∧
        t.InstanceOf ⟨3⟩ o ∧
        (∀ p x, (afterLoading [] stock busy).at? p = some x → x.handle ≠ o.handle) ∧
        (afterLoading [] stock (.copyCatalog :: busy)).catalog.instantiate? "vessel" ⟨9⟩ ⟨3⟩ =
          some o' ∧
        (o == o') = true := by
  have made : (Catalog.ofDocument .first stock).toOption.isSome := by decide +kernel
  have values : ((Catalog.ofDocument .first stock).toOption.bind (·.templates[0]?)).map
      (·.systemParameters.entries.map (·.value.bits)) = some [0] := by decide +kernel
  have room : takenAll ([] ++ .loadCatalog stock :: busy) empty < 2 ^ 64 - 1 := by
    have begun : stock.begun = 2 := by decide +kernel
    have loading : empty.taken (.loadCatalog stock) ≤ stock.begun + stock.begun := taken_le ..
    have making := taken_le (empty.step (.loadCatalog stock)) (.instantiate "vessel" ⟨3⟩ "tank")
    have editing (w : Workspace) (e : Object.Edit) : w.taken (.edit "tank" e) ≤ 0 := taken_le ..
    simp only [List.nil_append, busy, takenAll]
    grind [Command.made, Command.begun]
  cases hc : Catalog.ofDocument .first stock with
  | error f =>
    rw [hc] at made
    cases made
  | ok c =>
    have loaded : Catalog.ofDocument (runAll [] empty).nextHandle stock = .ok c := hc
    have offers : Offers [] stock busy := offers_of_staysWithCatalog loaded (by decide)
    have copied : Offers [] stock (.copyCatalog :: busy) :=
      offers_of_staysWithCatalog loaded (by decide)
    obtain ⟨refused, -⟩ := instantiate_exact loaded offers "pump" ⟨3⟩
    obtain ⟨-, instances⟩ := instantiate_exact loaded offers "vessel" ⟨3⟩
    obtain ⟨level, t, o, -, -, ht, ho, instanceOf, fresh, -, again⟩ :=
      instances 0 _ (by decide) rfl
    obtain ⟨o', ho', equal⟩ := again _ copied ⟨9⟩
    refine ⟨offers, copied, (refused "pump").mpr (by decide), c, t, o, o', rfl, ht, ho, instanceOf,
      fresh room, ho', equal.mpr fun s hs => ?_⟩
    rw [hc] at values
    have mem : s.value.bits ∈ t.systemParameters.entries.map (·.value.bits) :=
      List.mem_map_of_mem hs
    simp only [Except.toOption, Option.bind_some, ht, Option.map_some, Option.some.injEq] at values
    rw [values, List.mem_singleton] at mem
    rw [Number.Binary64.isNaN, Number.Binary64.magnitude, mem]
    decide

end Workspace

end Plant
