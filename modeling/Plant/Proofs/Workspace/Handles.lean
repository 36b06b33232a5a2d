import Mathlib
import Plant.Proofs.Object.Linked
import Plant.Proofs.Workspace.Journal

/-!
# Handles and links of a workspace

Handles are numbers that are given out one after the other. As long as there are numbers left, no
two objects of a workspace have the same handle, and no handle is given out twice, so a part that
points back to a handle points back to one object only.

Results:
1. `counted_of_accepted`: a command keeps handles apart, whatever it makes, copies or edits.
2. `wellLinked_runAll`: after every history that did not run out of handles all links are right and
   all handles are different.
-/
namespace Plant.Workspace

variable {w w' : Workspace}

/-! ## Definitions -/

/-- The number of the objects that a command makes if it is accepted. -/
def Command.made (w : Workspace) : Command → Nat
  | create _ _ => 1
  | copy _ _ => 1
  | copyFor _ _ _ => 1
  | loadCatalog document => document.begun
  | copyCatalog => w.catalog.size
  | copyTemplate _ _ => 1
  | instantiate _ _ _ => 1
  | _ => 0

/-- The number of the handles that a command takes. -/
def taken (w : Workspace) (c : Command) : Nat :=
  match w.run c with
  | .ok _ => c.made w
  | .error _ => c.begun

/-- The number of the handles that a history of commands takes. -/
def takenAll : List Command → Workspace → Nat
  | [], _ => 0
  | c :: cs, w => w.taken c + takenAll cs (w.step c)

/-- All parts of all objects point back to their objects, and no other object has the handle that
they point to, nor will a later one have it. -/
structure WellLinked (w : Workspace) : Prop where
  linked : ∀ p o, w.at? p = some o → o.Linked
  apart : ∀ p q a b, w.at? p = some a → w.at? q = some b → a.handle = b.handle → p = q
  earlier : ∀ p o, w.at? p = some o → o.handle.number < w.nextHandle.number

/-- The objects in all places have different handles, and these are among the first `n`. -/
structure Apart (objects : Place → Option Object) (n : Nat) : Prop where
  used : ∀ {p o}, objects p = some o → 0 < o.handle.number.toNat ∧ o.handle.number.toNat ≤ n
  apart : ∀ {p q a b}, objects p = some a → objects q = some b → a.handle = b.handle → p = q

namespace HandleLemmas

theorem toNat_advance {h : Handle} {n : Nat} (room : h.number.toNat + n < 2 ^ 64) :
    (h.advance n).number.toNat = h.number.toNat + n := by
  rw [Handle.advance, UInt64.toNat_add, UInt64.toNat_ofNat',
    Nat.mod_eq_of_lt (a := n) (by omega), Nat.mod_eq_of_lt room]

theorem handle_editAll (es : List Object.Edit) (o : Object) : (o.editAll es).handle = o.handle := by
  induction es generalizing o with
  | nil => rfl
  | cons e es ih =>
    refine (ih (o.edit e)).trans ?_
    show ((o.edit? e).getD o).handle = o.handle
    cases he : o.edit? e with
    | none => rfl
    | some o' => exact Object.handle_of_edit? he

theorem handle_build (handle : Handle) (level : Int32) (d : Catalog.Definition) :
    (d.build handle level).handle = handle := by
  rw [build_eq_editAll, handle_editAll]
  rfl

/-! ## Catalogs -/

theorem size_of_ofDocument {d : Catalog.Document} {handle : Handle} {c : Catalog}
    (h : Catalog.ofDocument handle d = .ok c) : c.size = d.begun :=
  Catalog.length_templatesFrom (Catalog.ofDocument_eq_ok_iff.mp h)

theorem handle_of_ofDocument {d : Catalog.Document} {handle : Handle} {c : Catalog}
    (h : Catalog.ofDocument handle d = .ok c) {i : Nat} {o : Object}
    (ho : c.templates[i]? = some o) : o.handle = handle.advance i := by
  rw [Catalog.getElem?_templatesFrom (Catalog.ofDocument_eq_ok_iff.mp h)] at ho
  obtain ⟨definition, -, ho⟩ := Option.bind_eq_some_iff.mp ho
  obtain ⟨level, -, rfl⟩ := Option.map_eq_some_iff.mp ho
  exact handle_build ..

theorem handle_of_copy {c : Catalog} {handle : Handle} {i : Nat} {o : Object}
    (ho : (c.copy handle).templates[i]? = some o) : o.handle = handle.advance i := by
  rw [Catalog.copy, Catalog.getElem?_copies] at ho
  obtain ⟨o, -, rfl⟩ := Option.map_eq_some_iff.mp ho
  rfl

end HandleLemmas

open HandleLemmas

/-! ## Changes of one place or of one catalog -/

namespace Apart

variable {objects : Place → Option Object} {n : Nat}

theorem mono (h : Apart objects n) {m : Nat} (hm : n ≤ m) : Apart objects m where
  used ho := ⟨(h.used ho).1, Nat.le_trans (h.used ho).2 hm⟩
  apart := h.apart

/-- An object with the next handle may be put anywhere. -/
theorem make (h : Apart objects n) (p : Place) {o : Object} (ho : o.handle.number.toNat = n + 1) :
    Apart (Function.update objects p (some o)) (n + 1) := by
  have old {q : Place} {a : Object} (hq : q ≠ p)
      (ha : Function.update objects p (some o) q = some a) : objects q = some a := by
    rwa [Function.update_of_ne hq] at ha
  have new {a : Object} (ha : Function.update objects p (some o) p = some a) : a = o := by
    rw [Function.update_self] at ha
    exact (Option.some.inj ha).symm
  -- the number of an old handle is at most `n`
  have differ {q : Place} {a : Object} (ha : objects q = some a) : a.handle ≠ o.handle := by
    intro heq
    have := (h.used ha).2
    rw [heq] at this
    omega
  constructor
  · intro q a ha
    by_cases hq : q = p
    · subst hq
      rw [new ha]
      omega
    · have := h.used (old hq ha)
      omega
  · intro q r a b ha hb heq
    by_cases hq : q = p <;> by_cases hr : r = p
    · rw [hq, hr]
    · subst hq
      rw [new ha] at heq
      exact absurd heq.symm (differ (old hr hb))
    · subst hr
      rw [new hb] at heq
      exact absurd heq (differ (old hq ha))
    · exact h.apart (old hq ha) (old hr hb) heq

/-- What has the handle of the object in a place may take that place. -/
theorem replace (h : Apart objects n) {p : Place} {o o' : Object} (ho : objects p = some o)
    (ho' : o'.handle = o.handle) : Apart (Function.update objects p (some o')) n := by
  have back {q : Place} {a : Object} (ha : Function.update objects p (some o') q = some a) :
      ∃ b, objects q = some b ∧ a.handle = b.handle := by
    by_cases hq : q = p
    · subst hq
      rw [Function.update_self] at ha
      cases ha
      exact ⟨o, ho, ho'⟩
    · rw [Function.update_of_ne hq] at ha
      exact ⟨a, ha, rfl⟩
  constructor
  · intro q a ha
    obtain ⟨b, hb, heq⟩ := back ha
    rw [heq]
    exact h.used hb
  · intro q r a b ha hb heq
    obtain ⟨a', ha', hea⟩ := back ha
    obtain ⟨b', hb', heb⟩ := back hb
    exact h.apart ha' hb' (hea.symm.trans (heq.trans heb))

theorem erase (h : Apart objects n) (p : Place) : Apart (Function.update objects p none) n := by
  have back {q : Place} {a : Object} (ha : Function.update objects p none q = some a) :
      objects q = some a := by
    by_cases hq : q = p
    · subst hq
      rw [Function.update_self] at ha
      cases ha
    · rwa [Function.update_of_ne hq] at ha
  exact ⟨fun ha => h.used (back ha), fun ha hb => h.apart (back ha) (back hb)⟩

/-- Templates with the next handles may be put at any position. -/
theorem addCatalog (h : Apart objects n) (position : Nat) {ts : List Object}
    (hts : ∀ i o, ts[i]? = some o → o.handle.number.toNat = n + 1 + i) :
    Apart (Place.withCatalog position (ts[·]?) objects) (n + ts.length) := by
  have view {q : Place} {a : Object}
      (ha : Place.withCatalog position (ts[·]?) objects q = some a) :
      (∃ i, q = .template position i ∧ ts[i]? = some a) ∨ objects q = some a := by
    cases q with
    | slot name => exact .inr ha
    | template catalog index =>
      simp only [Place.withCatalog] at ha
      split at ha
      · next hc =>
        subst hc
        exact .inl ⟨index, rfl, ha⟩
      · exact .inr ha
  have short {i : Nat} {a : Object} (ha : ts[i]? = some a) : i < ts.length :=
    (List.getElem?_eq_some_iff.mp ha).1
  have differ {q : Place} {a b : Object} {i : Nat} (ha : objects q = some a) (hb : ts[i]? = some b) :
      a.handle ≠ b.handle := by
    intro heq
    have := (h.used ha).2
    rw [heq, hts i b hb] at this
    omega
  constructor
  · intro q a ha
    rcases view ha with ⟨i, -, hi⟩ | ha
    · have := short hi
      rw [hts i a hi]
      omega
    · have := h.used ha
      omega
  · intro q r a b ha hb heq
    rcases view ha with ⟨i, rfl, hi⟩ | ha' <;> rcases view hb with ⟨k, rfl, hk⟩ | hb'
    · have hnum := hts i a hi
      rw [heq, hts k b hk] at hnum
      rw [show i = k by omega]
    · exact absurd heq.symm (differ hb' hi)
    · exact absurd heq (differ ha' hk)
    · exact h.apart ha' hb' heq

end Apart

/-! ## Commands -/

/-- The numbers up to `n` have been given out as handles. -/
structure Counted (w : Workspace) (n : Nat) : Prop where
  next : w.nextHandle.number.toNat = n + 1
  apart : Apart w.at? n

theorem Counted.useHandles {n m : Nat} (next : w.nextHandle.number.toNat = n + 1)
    (room : n + m < 2 ^ 64 - 1) (apart : Apart w.at? (n + m)) : (w.useHandles m).Counted (n + m) := by
  refine ⟨?_, by rwa [at?_useHandles]⟩
  show (w.nextHandle.advance m).number.toNat = n + m + 1
  rw [toNat_advance (by omega), next]
  omega

/-- A command gives out as many handles as it makes objects, and keeps the handles apart. -/
theorem counted_of_accepted {c : Command} {n : Nat} (h : w.Counted n) (hc : Accepted w c w')
    (room : n + c.made w < 2 ^ 64 - 1) : w'.Counted (n + c.made w) := by
  have made {slot : String} {o : Object} (ho : o.handle = w.nextHandle)
      (room : n + 1 < 2 ^ 64 - 1) : ((w.put slot o).useHandles 1).Counted (n + 1) := by
    refine Counted.useHandles h.next room ?_
    rw [at?_put]
    exact h.apart.make _ (by rw [ho, h.next])
  have edited {slot : String} {e : Object.Edit} {o o' : Object} (ho : w.at? (.slot slot) = some o)
      (he : o.edit? e = some o') : (w.put slot o').Counted n :=
    ⟨h.next, by rw [at?_put]; exact h.apart.replace ho (Object.handle_of_edit? he)⟩
  have stocked {c : Catalog} (room : n + c.size < 2 ^ 64 - 1)
      (hc : ∀ i o, c.templates[i]? = some o → o.handle = w.nextHandle.advance i) :
      ((w.addCatalog c).useHandles c.size).Counted (n + c.size) := by
    refine Counted.useHandles h.next room ?_
    rw [at?_addCatalog]
    refine h.apart.addCatalog _ fun i o ho => ?_
    have short : i < c.size := (List.getElem?_eq_some_iff.mp ho).1
    rw [hc i o ho, toNat_advance (by rw [h.next]; omega), h.next]
  cases hc with
  | create slot owner => exact made rfl room
  | copy ho => exact made rfl room
  | copyFor ho => exact made rfl room
  | copyTemplate ho => exact made rfl room
  | instantiate ho => exact made rfl room
  | edit ho he => exact edited ho he
  | copyProperty ha hp ho he => exact edited ho he
  | discard ho => exact ⟨h.next, by rw [at?_erase]; exact h.apart.erase _⟩
  | loadCatalog hd =>
    rw [Command.made, ← size_of_ofDocument hd] at room ⊢
    exact stocked room fun i o => handle_of_ofDocument hd
  | copyCatalog =>
    have size : (w.catalog.copy w.nextHandle).size = w.catalog.size := Catalog.length_copies _ _
    rw [Command.made, ← size] at room ⊢
    exact stocked room fun i o => handle_of_copy
  | register | setProcessCell | useCatalog | setSettings =>
    exact ⟨h.next, by rw [at?_eq_of_eq rfl rfl]; exact h.apart⟩

theorem counted_step {c : Command} {n : Nat} (h : w.Counted n) (room : n + w.taken c < 2 ^ 64 - 1) :
    (w.step c).Counted (n + w.taken c) := by
  unfold step taken at *
  cases hc : w.run c with
  | ok w' =>
    rw [hc] at room
    exact counted_of_accepted h (accepted_of_run hc) room
  | error r =>
    rw [hc] at room
    exact Counted.useHandles h.next room (h.apart.mono (Nat.le_add_right n _))

theorem counted_runAll (cs : List Command) {w : Workspace} {n : Nat} (h : w.Counted n)
    (room : n + takenAll cs w < 2 ^ 64 - 1) : (runAll cs w).Counted (n + takenAll cs w) := by
  induction cs generalizing w n with
  | nil => exact h
  | cons c cs ih =>
    rw [takenAll, ← Nat.add_assoc] at room ⊢
    exact ih (counted_step h (by omega)) room

theorem counted_empty : empty.Counted 0 where
  next := rfl
  apart := by
    rw [at?_empty]
    exact ⟨fun h => (nomatch h), fun h => (nomatch h)⟩

theorem linked_runAll {cs : List Command} {p : Place} {o : Object}
    (h : (runAll cs empty).at? p = some o) : o.Linked :=
  at?_induction Object.linked_new (fun _ _ _ ho he => ho.edit he) (fun _ handle ho => ho.copy handle)
    h

/-! ## Histories -/

/-- After every history that took fewer than `2^64 - 1` handles all parts of all objects point back
to their objects, groups to the owners of theirs, and no two objects have one handle; the handles
are given out in ascending order, so none comes back. -/
theorem wellLinked_runAll {cs : List Command} (room : takenAll cs empty < 2 ^ 64 - 1) :
    (runAll cs empty).WellLinked ∧
      (runAll cs empty).nextHandle.number.toNat = takenAll cs empty + 1 := by
  have counted := counted_runAll cs counted_empty (by omega)
  rw [Nat.zero_add] at counted
  refine ⟨⟨fun p o => linked_runAll, fun p q a b => counted.apart.apart, fun p o ho => ?_⟩,
    counted.next⟩
  rw [UInt64.lt_iff_toNat_lt, counted.next]
  exact Nat.lt_succ_of_le (counted.apart.used ho).2

/-- A property is added to the placeholder of an object, and then from there to an operation of its
copy. -/
def sharedProperty : List Command :=
  [.create "mixer" (some ⟨3⟩), .edit "mixer" (.addOperation "FILL" "Filling" 1),
    .edit "mixer" (.editOperation (.named "") (.addProperty (.new .active "speed" "Speed" "50"))),
    .edit "mixer" (.addGroup "tanks" "Tanks" .units), .copyFor "mixer" ⟨7⟩ "tank",
    .copyProperty "mixer" "" "speed" "tank" "FILL"]

theorem wellLinked_sharedProperty :
    takenAll sharedProperty empty < 2 ^ 64 - 1 ∧ (runAll sharedProperty empty).WellLinked := by
  have room : takenAll sharedProperty empty < 2 ^ 64 - 1 := by cbv
  exact ⟨room, (wellLinked_runAll room).1⟩

end Plant.Workspace
