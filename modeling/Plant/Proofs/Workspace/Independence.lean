import Plant.Proofs.Object.Renaming
import Plant.Proofs.Workspace.Copies
import Plant.Proofs.Workspace.Result

/-!
# Independence of objects

Objects have no parts in common: a command changes the object in one slot, and every other object,
also one that this one was copied from or was copied from it, stays as it is, and so do all
templates. Commands on different objects can therefore be done in either order. What they make gets
other handles then, so the objects are the same but for a renaming of handles, which keeps what
points to what.

Results:
1. `result_rename`: what a command makes under a renamed handle is renamed.
2. `renamed_step_step`, `exists_renaming`: two commands on different objects lead to the same in
   both orders, but for a renaming.
3. `independent`: objects stay as they are under commands on others, and such commands commute.
-/
namespace Plant.Workspace

variable {w : Workspace} {c d : Command} {s t : String}

/-! ## Definitions -/

/-- Each of two commands changes one object, and none that the other one changes or looks at. -/
structure Command.Disjoint (c d : Command) (s t : String) : Prop where
  left : c.target? = some s
  right : d.target? = some t
  differ : s ≠ t
  leftSources : t ∉ c.sources
  rightSources : s ∉ d.sources

/-- The two workspaces are the same but for a renaming of the handles of their objects. -/
structure Renamed (σ : Equiv.Perm Handle) (w w' : Workspace) : Prop where
  objects : ∀ p, w'.at? p = (w.at? p).map (Object.rename σ)
  around : SameAround w w'
  nextHandle : w'.nextHandle = w.nextHandle

/-- The handle in a part of the object in one place is that of the object in another place. -/
def PointsTo (w : Workspace) (p : Place) (part : Nat) (q : Place) : Prop :=
  ∃ a b, w.at? p = some a ∧ w.at? q = some b ∧ a.holders[part]? = some (some b.handle)

/-- The objects of the workspace are of one piece, and keep their handles. -/
def Fixes (σ : Equiv.Perm Handle) (w : Workspace) : Prop :=
  ∀ p o, w.at? p = some o → o.Linked ∧ σ o.handle = o.handle

/-! ## Results under renamed handles -/

section Renaming

variable {σ : Equiv.Perm Handle}

theorem Fixes.rename_at? (h : Fixes σ w) (p : Place) :
    (w.at? p).map (Object.rename σ) = w.at? p := by
  cases ho : w.at? p with
  | none => rfl
  | some o => exact congrArg some (Object.rename_eq_self (h p o ho).1 (h p o ho).2)

theorem Fixes.rename_edited (h : Fixes σ w) (slot : String) (e : Object.Edit) :
    (w.edited slot e).map (Option.map (Object.rename σ)) = w.edited slot e := by
  unfold edited
  cases ho : w.object slot with
  | error r => rfl
  | ok o =>
    cases he : o.edit? e with
    | none => simp [bind, Except.bind, Except.map, he]
    | some o' =>
      obtain ⟨linked, fixed⟩ := h _ o (object_eq_ok_iff.mp ho)
      have same : o'.rename σ = o' :=
        Object.rename_eq_self (linked.edit he) (by rw [Object.handle_of_edit? he, fixed])
      simp [bind, Except.bind, Except.map, he, same]

/-- What a command makes under a renamed handle is renamed, and nothing else is. -/
theorem result_rename (h : Fixes σ w) (handle : Handle) :
    c.result w (σ handle) = (c.result w handle).map (Option.map (Object.rename σ)) := by
  have copied (o : Object) :
      some (o.copy (σ handle)) = (some (o.copy handle)).map (Object.rename σ) :=
    congrArg some (Object.rename_copy handle o).symm
  have copiedFor (owner : Owner) (o : Object) :
      some (o.copyFor (σ handle) owner) = (some (o.copyFor handle owner)).map (Object.rename σ) :=
    congrArg some (Object.rename_copyFor handle owner o).symm
  cases c with
  | create slot owner => rfl
  | copy source slot =>
    simp only [Command.result]
    cases w.object source with
    | error r => rfl
    | ok o => exact congrArg Except.ok (copied o)
  | copyFor source owner slot =>
    simp only [Command.result]
    cases w.object source with
    | error r => rfl
    | ok o => exact congrArg Except.ok (copiedFor owner o)
  | discard slot =>
    simp only [Command.result]
    cases w.object slot <;> rfl
  | edit slot e => exact (h.rename_edited slot e).symm
  | copyProperty source sourceOperation property slot operation =>
    simp only [Command.result]
    cases w.object source with
    | error r => rfl
    | ok a =>
      cases hp : (a.operation? sourceOperation).bind (·.property? property) with
      | none => simp [bind, Except.bind, Except.map, hp]
      | some p => simp [bind, Except.bind, hp, h.rename_edited]
  | copyTemplate name slot =>
    simp only [Command.result]
    cases w.catalog.template? name with
    | none => rfl
    | some o => exact congrArg Except.ok (copied o)
  | instantiate basicName owner slot =>
    simp only [Command.result, Catalog.instantiate?]
    cases w.catalog.templateByBasicName? basicName with
    | none => rfl
    | some o => exact congrArg Except.ok (copiedFor owner o)
  | register | setProcessCell | loadCatalog | copyCatalog | useCatalog | setSettings => rfl

theorem content_rename (h : Fixes σ w) (handle : Handle) :
    c.content w (σ handle) s = (c.content w handle s).map (Object.rename σ) := by
  unfold Command.content
  rw [result_rename h]
  cases c.result w handle with
  | ok o => rfl
  | error r => exact (h.rename_at? _).symm

end Renaming

/-! ## Two commands -/

section Commands

variable (hcd : c.Disjoint d s t)
include hcd

theorem Command.Disjoint.symm : d.Disjoint c t s :=
  ⟨hcd.right, hcd.left, hcd.differ.symm, hcd.rightSources, hcd.leftSources⟩

/-- A command on another object does not change what a command finds. -/
theorem result_step (handle : Handle) : c.result (w.step d) handle = c.result w handle := by
  refine result_congr (sameAround_step hcd.right) (fun source hsource => ?_) handle
  rw [at?_step hcd.right, Function.update_of_ne]
  intro same
  cases same
  exact hcd.leftSources hsource

theorem content_step (handle : Handle) :
    c.content (w.step d) handle s = c.content w handle s := by
  have other : (w.step d).at? (.slot s) = w.at? (.slot s) := by
    rw [at?_step hcd.right, Function.update_of_ne]
    intro same
    cases same
    exact hcd.differ rfl
  rw [Command.content, Command.content, result_step hcd, other]

theorem run_step_eq_error_iff {r : Refusal} :
    (w.step d).run c = .error r ↔ w.run c = .error r := by
  have refused (w : Workspace) : w.run c = .error r ↔ c.result w w.nextHandle = .error r := by
    rw [run_eq hcd.left]
    cases c.result w w.nextHandle <;> simp [Except.map]
  rw [refused, refused, result_step hcd]
  exact result_eq_error_iff ..

theorem taken_step : (w.step d).taken c = w.taken c := by
  have made : c.made (w.step d) = c.made w := by
    have hs := hcd.left
    cases c with
    | copyCatalog => cases hs
    | _ => rfl
  unfold taken
  cases hc : w.run c with
  | error r => rw [(run_step_eq_error_iff hcd).mpr hc]
  | ok w' =>
    cases hc' : (w.step d).run c with
    | error r =>
      rw [(run_step_eq_error_iff hcd).mp hc'] at hc
      cases hc
    | ok w'' => exact made

/-- The objects after two commands, by what each of them makes for itself. -/
theorem at?_step_step :
    ((w.step d).step c).at? =
      Function.update (Function.update w.at? (.slot t) (d.content w w.nextHandle t)) (.slot s)
        (c.content w (w.nextHandle.advance (w.taken d)) s) := by
  rw [at?_step hcd.left, content_step hcd, at?_step hcd.right, nextHandle_step hcd.right]

theorem nextHandle_step_step :
    ((w.step d).step c).nextHandle = ((w.step c).step d).nextHandle := by
  rw [nextHandle_step hcd.left, nextHandle_step hcd.right, nextHandle_step hcd.right,
    nextHandle_step hcd.left, taken_step hcd, taken_step hcd.symm]
  simp only [Handle.advance, Handle.mk.injEq]
  exact add_right_comm ..

theorem sameAround_step_step : SameAround ((w.step c).step d) ((w.step d).step c) :=
  ((sameAround_step hcd.left).trans (sameAround_step hcd.right)).symm.trans
    ((sameAround_step hcd.right).trans (sameAround_step hcd.left))

/-- What two commands make is the same in both orders, but for a renaming. -/
theorem renamed_step_step {σ : Equiv.Perm Handle} (fixes : Fixes σ w)
    (left : c.content w (w.nextHandle.advance (w.taken d)) s =
      (c.content w w.nextHandle s).map (Object.rename σ))
    (right : d.content w w.nextHandle t =
      (d.content w (w.nextHandle.advance (w.taken c)) t).map (Object.rename σ)) :
    Renamed σ ((w.step c).step d) ((w.step d).step c) where
  objects p := by
    have differ : Place.slot t ≠ .slot s := fun same => hcd.differ (Place.slot.inj same).symm
    rw [at?_step_step hcd, at?_step_step hcd.symm, Function.update_comm differ]
    by_cases hp : p = .slot t
    · rw [hp, Function.update_self, Function.update_self]
      exact right
    · rw [Function.update_of_ne hp, Function.update_of_ne hp]
      by_cases hp : p = .slot s
      · rw [hp, Function.update_self, Function.update_self]
        exact left
      · rw [Function.update_of_ne hp, Function.update_of_ne hp]
        exact (fixes.rename_at? p).symm
  around := sameAround_step_step hcd
  nextHandle := nextHandle_step_step hcd

end Commands

theorem taken_le_one (hs : c.target? = some s) : w.taken c ≤ 1 := by
  unfold taken
  split
  case h_1 =>
    cases c with
    | loadCatalog | copyCatalog => cases hs
    | create | copy | copyFor | copyTemplate | instantiate => exact Nat.le_refl 1
    | _ => exact Nat.zero_le 1
  case h_2 => rw [begun_of_target hs]; exact Nat.zero_le 1

/-! ## Histories -/

section Reached

variable {cs : List Command} (room : takenAll cs empty < 2 ^ 64 - 1)
include room

/-- The two handles that come next can be exchanged without a change to the objects that there
are. -/
theorem fixes_swap :
    Fixes (Equiv.swap (runAll cs empty).nextHandle ((runAll cs empty).nextHandle.advance 1))
      (runAll cs empty) := by
  intro p o ho
  have counted := counted_runAll cs counted_empty (by omega)
  have used := counted.apart.used ho
  have next := counted.next
  refine ⟨linked_runAll ho, Equiv.swap_apply_of_ne_of_ne (handle_ne_nextHandle room ho).symm ?_⟩
  -- the last handle of all is followed by the number zero, which is no handle
  intro same
  have one : (UInt64.ofNat 1).toNat = 1 := rfl
  rw [same, Handle.advance, UInt64.toNat_add, next, one] at used
  omega

theorem exists_renaming (hcd : c.Disjoint d s t) :
    let w := runAll cs empty
    ∃ σ, Fixes σ w ∧ Renamed σ ((w.step c).step d) ((w.step d).step c) := by
  intro w
  by_cases idle : w.taken c = 0 ∨ w.taken d = 0
  · have fixes : Fixes (Equiv.refl Handle) w := fun p o ho => ⟨linked_runAll ho, rfl⟩
    refine ⟨_, fixes, renamed_step_step hcd fixes ?_ ?_⟩
    · rw [← content_rename fixes, Equiv.refl_apply]
      exact content_advance hcd.left idle
    · rw [← content_rename fixes, Equiv.refl_apply]
      exact (content_advance hcd.right idle.symm).symm
  · have one : w.taken c = 1 ∧ w.taken d = 1 := by
      have := taken_le_one (w := w) hcd.left
      have := taken_le_one (w := w) hcd.right
      omega
    have fixes := fixes_swap room
    refine ⟨_, fixes, renamed_step_step hcd fixes ?_ ?_⟩
    · rw [one.2, ← content_rename fixes, Equiv.swap_apply_left]
    · rw [one.1, ← content_rename fixes, Equiv.swap_apply_right]

end Reached

theorem Renamed.pointsTo_iff {σ : Equiv.Perm Handle} {w w' : Workspace} (h : Renamed σ w w')
    {p q : Place} {part : Nat} : w'.PointsTo p part q ↔ w.PointsTo p part q := by
  have point (a b : Object) : (a.rename σ).holders[part]? = some (some (b.rename σ).handle) ↔
      a.holders[part]? = some (some b.handle) := by
    rw [Object.holders_rename, List.getElem?_map]
    show (a.holders[part]?).map _ = some (some (σ b.handle)) ↔ _
    rcases a.holders[part]? with _ | _ | h <;> simp
  unfold PointsTo
  rw [h.objects, h.objects]
  constructor
  · rintro ⟨a', b', ha', hb', points⟩
    obtain ⟨a, ha, rfl⟩ := Option.map_eq_some_iff.mp ha'
    obtain ⟨b, hb, rfl⟩ := Option.map_eq_some_iff.mp hb'
    exact ⟨a, b, ha, hb, (point a b).mp points⟩
  · rintro ⟨a, b, ha, hb, points⟩
    exact ⟨_, _, by rw [ha]; rfl, by rw [hb]; rfl, (point a b).mpr points⟩

/-- After every history: commands on the object of one slot leave all other objects and all
templates as they are. Two commands on different objects are accepted or refused alike in either
order and, as long as handles have not run out, leave the same objects in all places but for the
numbers of handles that are new: each part still points to the object in the same place, and nothing
that is shown is different. -/
theorem independent (cs : List Command) :
    let w := runAll cs empty
    (∀ s later, (∀ c ∈ later, c.target? = some s) →
        (∀ p, p ≠ .slot s → (runAll later w).at? p = w.at? p) ∧
          SameAround w (runAll later w)) ∧
      ∀ c d s t, Command.Disjoint c d s t →
        (∀ r, (w.step d).run c = .error r ↔ w.run c = .error r) ∧
        (∀ r, (w.step c).run d = .error r ↔ w.run d = .error r) ∧
        (takenAll cs empty < 2 ^ 64 - 1 →
          ∃ σ, (∀ p o, w.at? p = some o → o.rename σ = o) ∧
            Renamed σ ((w.step c).step d) ((w.step d).step c) ∧
            (∀ p part q, ((w.step d).step c).PointsTo p part q ↔
              ((w.step c).step d).PointsTo p part q) ∧
            ∀ o : Object, (o.rename σ).Alike Eq o ∧ Lua.SameTexts (o.rename σ) o) := by
  intro w
  refine ⟨fun s later hs => ?_, fun c d s t hcd => ?_⟩
  · exact ⟨fun p hp => at?_runAll_of_target hs w hp, sameAround_runAll_of_target hs w⟩
  · refine ⟨fun r => run_step_eq_error_iff hcd, fun r => run_step_eq_error_iff hcd.symm,
      fun room => ?_⟩
    obtain ⟨σ, fixes, renamed⟩ := exists_renaming room hcd
    refine ⟨σ, ?_, renamed, fun p part q => renamed.pointsTo_iff, fun o => ?_⟩
    · exact fun p o ho => Object.rename_eq_self (fixes p o ho).1 (fixes p o ho).2
    · exact ⟨o.alike_rename, o.sameTexts_rename⟩

/-- A tank and a copy of it. -/
def twins : List Command := unmeasured ++ [.copyFor "tank" ⟨7⟩ "twin"]

theorem independent_twins :
    let w := runAll twins empty
    takenAll twins empty < 2 ^ 64 - 1 ∧
      (∀ e, (runAll [.edit "tank" e] w).at? (.slot "twin") = w.at? (.slot "twin")) ∧
      Command.Disjoint (.copy "tank" "left") (.create "right" none) "left" "right" ∧
      ∃ σ, Renamed σ ((w.step (.copy "tank" "left")).step (.create "right" none))
        ((w.step (.create "right" none)).step (.copy "tank" "left")) := by
  have room : takenAll twins empty < 2 ^ 64 - 1 := by cbv
  have disjoint : Command.Disjoint (.copy "tank" "left") (.create "right" none) "left" "right" := by
    constructor <;> decide
  obtain ⟨kept, swapped⟩ := independent twins
  obtain ⟨-, -, exchanged⟩ := swapped _ _ _ _ disjoint
  obtain ⟨σ, -, renamed, -⟩ := exchanged room
  refine ⟨room, fun e => ?_, disjoint, σ, renamed⟩
  have onTank : ∀ c ∈ [Command.edit "tank" e], c.target? = some "tank" :=
    List.forall_mem_singleton.mpr rfl
  exact (kept "tank" _ onTank).1 (.slot "twin") (by decide)

end Plant.Workspace
