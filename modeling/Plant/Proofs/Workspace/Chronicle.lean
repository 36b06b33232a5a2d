import Mathlib
import Plant.Proofs.Object.Pasts
import Plant.Proofs.Workspace.Journal

/-!
# Chronicles

A chronicle keeps, beside a workspace, the past of every parameter of the object in each place. The
past of a property that is copied into another object comes along with it, and so do the pasts of
templates, which begin with the texts of their document. So whatever way a parameter took through
objects, copies and catalogs, it is known what text was assigned to it last.

Results:
1. `recounts_tell`: what one accepted command does to the pasts.
2. `recounts_tellAll`: what a history does to them.
3. `values_exact`: what parameters hold after every history, on their own, in an operation or in an
   object.
-/
namespace Plant.Workspace

open Parameter

/-! ## Definitions -/

/-- The pasts of the parameters of the object in each place; there are none where there is no
object. -/
abbrev Chronicle := Place → Option Object.Pasts

/-- A command that may bring in a property with its past. -/
inductive Deed where
  | command (c : Command)
  | operate (slot : String) (which : Entry) (d : Operation.Deed)

/-- The command itself. -/
def Deed.toCommand : Deed → Command
  | command c => c
  | operate slot which d => .edit slot (.editOperation which d.toEdit)

/-- The chronicle after an accepted command. -/
def tell (w : Workspace) (j : Chronicle) : Command → Chronicle
  | .create slot _ => Function.update j (.slot slot) (some .empty)
  | .copy source slot => Function.update j (.slot slot) (j (.slot source))
  | .copyFor source _ slot => Function.update j (.slot slot) (j (.slot source))
  | .discard slot => Function.update j (.slot slot) none
  | .edit slot e => Function.update j (.slot slot) ((j (.slot slot)).map (·.edit e))
  | .copyProperty source sourceOperation property slot operation =>
    ((j (.slot source)).bind (·.property? sourceOperation property)).elim j fun past =>
      Function.update j (.slot slot)
        ((j (.slot slot)).map (·.operate (.named operation) (.bring past)))
  | .loadCatalog document =>
    Place.withCatalog w.catalogs.length (fun i => document.templates[i]?.map (·.pasts)) j
  | .copyCatalog => Place.withCatalog w.catalogs.length (fun i => j (.template w.inUse i)) j
  | .copyTemplate name slot =>
    Function.update j (.slot slot) ((w.templatePlace? (·.name == name)).bind j)
  | .instantiate basicName _ slot =>
    Function.update j (.slot slot) ((w.templatePlace? (·.basicName == basicName)).bind j)
  | .register _ _ => j
  | .setProcessCell _ => j
  | .useCatalog _ => j
  | .setSettings _ => j

/-- The chronicle after a deed; nothing is told of one that is refused. -/
def tellDeed (w : Workspace) (j : Chronicle) (d : Deed) : Chronicle :=
  match w.run d.toCommand, d with
  | .error _, _ => j
  | .ok _, .command c => w.tell j c
  | .ok _, .operate slot which d =>
    Function.update j (.slot slot) ((j (.slot slot)).map (·.operate which d))

/-- The chronicle after a history of deeds. -/
def tellAll : List Deed → Workspace → Chronicle → Chronicle
  | [], _, j => j
  | d :: ds, w, j => tellAll ds (w.step d.toCommand) (w.tellDeed j d)

/-- The chronicle of a history that starts with an empty workspace. -/
def chronicle (ds : List Deed) : Chronicle := tellAll ds empty fun _ => none

/-- The chronicle has the pasts of the parameters of all objects. -/
def Recounts (j : Chronicle) (w : Workspace) : Prop :=
  ∀ p, Option.Rel (Object.Pasts.Of Traces) (j p) (w.at? p)

variable {w w' : Workspace} {j : Chronicle}

/-! ## Changes of the workspace -/

theorem recounts_of_at?_eq (h : Recounts j w) (same : w'.at? = w.at?) : Recounts j w' := by
  intro p
  rw [same]
  exact h p

theorem recounts_useHandles (h : Recounts j w) (n : Nat) : Recounts j (w.useHandles n) :=
  recounts_of_at?_eq h (at?_useHandles n w)

theorem recounts_put (h : Recounts j w) (slot : String) {a : Object.Pasts} {o : Object}
    (pasts : a.Of Traces o) :
    Recounts (Function.update j (.slot slot) (some a)) (w.put slot o) := by
  intro p
  rw [at?_put, Function.update_apply, Function.update_apply]
  split
  · exact .some pasts
  · exact h p

theorem recounts_erase (h : Recounts j w) (slot : String) :
    Recounts (Function.update j (.slot slot) none)
      { w with objects := w.objects.erase slot } := by
  intro p
  rw [at?_erase, Function.update_apply, Function.update_apply]
  split
  · exact .none
  · exact h p

theorem recounts_addCatalog (h : Recounts j w) {new : Nat → Option Object.Pasts} {c : Catalog}
    (hnew : ∀ i, Option.Rel (Object.Pasts.Of Traces) (new i) c.templates[i]?) :
    Recounts (Place.withCatalog w.catalogs.length new j) (w.addCatalog c) := by
  intro p
  rw [at?_addCatalog]
  cases p with
  | slot name => exact h (.slot name)
  | template catalog index =>
    rw [Place.withCatalog, Place.withCatalog]
    split
    · exact hnew index
    · exact h (.template catalog index)

/-! ## Catalogs -/

/-- The template that a test finds, with the pasts of its parameters. -/
theorem Recounts.rel_find? (h : Recounts j w) (test : Object → Bool) :
    Option.Rel (Object.Pasts.Of Traces) ((w.templatePlace? test).bind j)
      (w.catalog.templates.find? test) := by
  rw [← templatePlace?_bind_at?]
  cases w.templatePlace? test with
  | none => exact .none
  | some p => exact h p

/-- The parameters of templates are made of the texts of their definitions. -/
theorem rel_templates {document : Catalog.Document} {handle : Handle} {c : Catalog}
    (hc : Catalog.ofDocument handle document = .ok c) (i : Nat) :
    Option.Rel (Object.Pasts.Of Traces) (document.templates[i]?.map (·.pasts)) c.templates[i]? := by
  have templates := Catalog.ofDocument_eq_ok_iff.mp hc
  cases hd : document.templates[i]? with
  | none =>
    rw [Catalog.getElem?_templatesFrom templates, hd]
    exact .none
  | some d =>
    obtain ⟨level, -, ht⟩ := Catalog.exists_template templates hd
    rw [ht]
    exact .some (Object.Pasts.of_build d _ level)

theorem rel_copies (h : Recounts j w) (handle : Handle) (i : Nat) :
    Option.Rel (Object.Pasts.Of Traces) (j (.template w.inUse i))
      (w.catalog.copy handle).templates[i]? := by
  show Option.Rel _ _ (Catalog.copies handle w.catalog.templates)[i]?
  rw [Catalog.getElem?_copies, ← at?_template_inUse]
  have same := rel_map (f := id) (h (.template w.inUse i))
    fun _ _ pasts => pasts.copy (handle.advance i)
  rwa [Option.map_id] at same

/-! ## Commands -/

/-- What is told of a command is what it does. -/
theorem recounts_tell {c : Command} (h : Recounts j w) (hc : Accepted w c w') :
    Recounts (w.tell j c) w' := by
  cases hc with
  | create slot owner =>
    exact recounts_useHandles (recounts_put h slot (Object.Pasts.of_new w.nextHandle owner)) 1
  | @copy source slot o ho =>
    obtain ⟨a, ha, pasts⟩ := exists_rel_of_eq_some (h _) ho
    rw [tell, ha]
    exact recounts_useHandles (recounts_put h slot (pasts.copy w.nextHandle)) 1
  | @copyFor source slot owner o ho =>
    obtain ⟨a, ha, pasts⟩ := exists_rel_of_eq_some (h _) ho
    rw [tell, ha]
    exact recounts_useHandles (recounts_put h slot (pasts.copyFor w.nextHandle owner)) 1
  | discard ho => exact recounts_erase h _
  | @edit slot e o o' ho he =>
    obtain ⟨a, ha, pasts⟩ := exists_rel_of_eq_some (h _) ho
    rw [tell, ha]
    exact recounts_put h slot (pasts.edit he)
  | @copyProperty source sourceOperation property slot operation a o o' p ha hp ho he =>
    -- the property brings the past that it has in its source
    obtain ⟨b, hb, source⟩ := exists_rel_of_eq_some (h _) ha
    obtain ⟨past, hpast, traces⟩ := exists_rel_of_eq_some (source.rel_property? ..) hp
    obtain ⟨b', hb', pasts⟩ := exists_rel_of_eq_some (h _) ho
    rw [tell, hb, Option.bind_some, hpast, Option.elim_some, hb']
    refine recounts_put h slot (pasts.operate (d := .bring past) (fun _ _ h => ?_) he)
    exact .some (h.bring traces)
  | @loadCatalog document c hc =>
    exact recounts_useHandles (recounts_addCatalog h (rel_templates hc)) c.size
  | copyCatalog =>
    exact recounts_useHandles (recounts_addCatalog h (rel_copies h w.nextHandle)) w.catalog.size
  | @copyTemplate name slot o ho =>
    obtain ⟨a, ha, pasts⟩ := exists_rel_of_eq_some (h.rel_find? _) ho
    rw [tell, ha]
    exact recounts_useHandles (recounts_put h slot (pasts.copy w.nextHandle)) 1
  | @instantiate basicName slot owner o ho =>
    obtain ⟨a, ha, pasts⟩ := exists_rel_of_eq_some (h.rel_find? _) ho
    rw [tell, ha]
    exact recounts_useHandles (recounts_put h slot (pasts.copyFor w.nextHandle owner)) 1
  | register | setProcessCell | useCatalog | setSettings =>
    exact recounts_of_at?_eq h (at?_eq_of_eq rfl rfl)

theorem recounts_tellDeed (h : Recounts j w) (d : Deed) :
    Recounts (w.tellDeed j d) (w.step d.toCommand) := by
  unfold tellDeed step
  cases hd : w.run d.toCommand with
  | error r => exact recounts_useHandles h _
  | ok w' =>
    have accepted := accepted_of_run hd
    cases d with
    | command c => exact recounts_tell h accepted
    | operate slot which d =>
      cases accepted with
      | edit ho he =>
        obtain ⟨a, ha, pasts⟩ := exists_rel_of_eq_some (h _) ho
        show Recounts (Function.update j (.slot slot) ((j (.slot slot)).map _)) _
        rw [ha]
        exact recounts_put h slot (pasts.operate (fun _ _ h => h.act? d) he)

theorem recounts_tellAll (ds : List Deed) {w : Workspace} {j : Chronicle} (h : Recounts j w) :
    Recounts (tellAll ds w j) (runAll (ds.map Deed.toCommand) w) := by
  induction ds generalizing w j with
  | nil => exact h
  | cons d ds ih => exact ih (recounts_tellDeed h d)

/-! ## Histories -/

/-- Every parameter, on its own or in any list of an operation or of an object, is what its past
says, whatever was done to it and to what it was copied from: if it is true or false, it is as the
text that was assigned to it last says, and is written as that, and its default value is as the text
says that it was made of; otherwise it has these texts as they are. -/
theorem values_exact :
    (∀ past : Past, Holds past past.parameter ∧
      ∀ e, (past.andThen e).parameter.defaultValue = past.parameter.defaultValue) ∧
    (∀ luaName name position ds, Operation.Pasts.Of Holds
      ((Operation.Pasts.new luaName).actAll ds) ((Operation.new luaName name position).actAll ds)) ∧
    ∀ ds p, Option.Rel (Object.Pasts.Of Holds) (chronicle ds p)
      ((runAll (ds.map Deed.toCommand) empty).at? p) := by
  have holds (past : Past) (p : Parameter) (h : Traces past p) : Holds past p := h.holds
  refine ⟨fun past => ⟨(Traces.parameter past).holds, fun e => ?_⟩,
    fun luaName name position ds => ?_, fun ds p => ?_⟩
  · exact (past.andThen e).reflects_parameter.defaultValue.trans
      past.reflects_parameter.defaultValue.symm
  · exact ((Operation.Pasts.of_new luaName name position).actAll ds).imp holds
  · have start : Recounts (fun _ => none) empty := by
      intro p
      rw [at?_empty]
      exact .none
    have told := rel_map (f := id) (g := id) (recounts_tellAll ds start p) fun _ _ h => h.imp holds
    rwa [Option.map_id, Option.map_id] at told

/-- A property that is true and is then set. -/
def setFlag : List Operation.Deed :=
  [.bring (.made .activeBool "open" "Open" " ДА"), .edit (.editProperty .last ⟨some "0", none⟩)]

/-- A property that is true goes from the tank to the silo and is disabled there. -/
def sharedFlag : List Deed :=
  [.command (.create "tank" none), .command (.edit "tank" (.addOperation "FILL" "Filling" 1)),
    .operate "tank" .last (.bring (.made .activeBool "open" "Open" " ДА")),
    .command (.create "silo" none), .command (.edit "silo" (.addOperation "FILL" "Filling" 1)),
    .command (.copyProperty "tank" "FILL" "open" "silo" "FILL"),
    .operate "silo" (.named "FILL") (.edit (.editProperty .last ⟨none, some true⟩))]

theorem values_exact_sharedFlag :
    (∃ p, ((Operation.new "FILL" "Filling" 1).actAll setFlag).properties = [p] ∧
      p.value = "false" ∧ p.defaultValue = "true") ∧
    ∃ o blank op p, (runAll (sharedFlag.map Deed.toCommand) empty).at? (.slot "silo") = some o ∧
      o.operations = [blank, op] ∧ op.properties = [p] ∧
      p.value = "true" ∧ ∀ indent, Lua.assignmentText indent p = "" := by
  have yes : SaysTrue " ДА" := by decide +kernel
  have no : ¬ SaysTrue "0" := by decide +kernel
  obtain ⟨-, operations, objects⟩ := values_exact
  constructor
  · have rel := (operations "FILL" "Filling" 1 setFlag).properties
    obtain ⟨p, _, holds, none, hp⟩ := List.forall₂_cons_left_iff.mp rel
    cases none
    have boolean := holds.boolean (.inl holds.kind)
    have value : p.value ≠ "true" := fun set => no (boolean.value.mp set)
    refine ⟨p, hp, ?_, boolean.defaultValue.mpr yes⟩
    simpa [value] using boolean.value_mem
  · have told : chronicle sharedFlag (.slot "silo") = some
        { Object.Pasts.empty with
          operations := [.new "", ⟨"FILL",
            [⟨.activeBool, "open", "Open", " ДА", [⟨none, some true⟩]⟩]⟩] } := by cbv
    have rel := objects sharedFlag (.slot "silo")
    rw [told] at rel
    generalize (runAll (sharedFlag.map Deed.toCommand) empty).at? (.slot "silo") = there at rel ⊢
    cases rel with
    | @some _ o pasts =>
      obtain ⟨blank, _, -, rest, operations⟩ := List.forall₂_cons_left_iff.mp pasts.operations
      obtain ⟨op, _, properties, none, rfl⟩ := List.forall₂_cons_left_iff.mp rest
      cases none
      obtain ⟨p, _, holds, none, hp⟩ := List.forall₂_cons_left_iff.mp properties.properties
      cases none
      have boolean := holds.boolean (.inl holds.kind)
      refine ⟨o, blank, op, p, rfl, operations, hp, boolean.value.mpr yes, fun indent => ?_⟩
      rw [boolean.written indent, if_pos (.inl holds.disabled)]

end Plant.Workspace
