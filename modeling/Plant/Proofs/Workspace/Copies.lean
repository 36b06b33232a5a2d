import Plant.Proofs.Object.Alike
import Plant.Proofs.Workspace.Handles

/-!
# Copies of the objects of a workspace

Any object of a workspace can be copied at any time, a template too. The copy takes the next handle
and is like its source in everything else; a copy that belongs to an owner differs from it in the
owners only, and who it was copied for before does not matter.

Results:
1. `at?_step_copy`: the command that copies puts the copy into its slot.
2. `copy_faithful`: what a copy has in common with its source, when the two are equal, and what
   copies for owners are like.
-/
namespace Plant.Workspace

theorem at?_step_copy {w : Workspace} {source : String} {x : Object}
    (hx : w.at? (.slot source) = some x) (slot : String) :
    (w.step (.copy source slot)).at? (.slot slot) = some (x.copy w.nextHandle) := by
  have accepted : w.run (.copy source slot) =
      .ok ((w.put slot (x.copy w.nextHandle)).useHandles 1) := by
    rw [run, object_eq_ok_iff.mpr hx]
    rfl
  rw [step, accepted]
  simp

/-- The next handle is not that of an object, as long as handles have not run out. -/
theorem handle_ne_nextHandle {cs : List Command} (room : takenAll cs empty < 2 ^ 64 - 1) {p : Place}
    {x : Object} (hx : (runAll cs empty).at? p = some x) :
    (runAll cs empty).nextHandle ≠ x.handle := by
  have counted := counted_runAll cs counted_empty (by omega)
  intro same
  have used := (counted.apart.used hx).2
  rw [← same, counted.next] at used
  omega

/-- The copy of any object after any history is what the command that copies puts into its slot. It
is like the object in all that can be seen but the handle, which is another one as long as handles
have not run out, and all its parts point back to it. The two are equal exactly if there is no NaN
among the system parameters. A copy for an owner is the copy with that owner, also in the groups,
and if it is copied for another owner, it is as if that had been the first. -/
theorem copy_faithful {cs : List Command} {p : Place} {x : Object}
    (hx : (runAll cs empty).at? p = some x) :
    let c := x.copy (runAll cs empty).nextHandle
    (∀ source slot, p = .slot source →
        ((runAll cs empty).step (.copy source slot)).at? (.slot slot) = some c) ∧
      c.Alike Eq x ∧
      (takenAll cs empty < 2 ^ 64 - 1 → c.handle ≠ x.handle) ∧
      c.Linked ∧
      ((c == x) = true ↔ ∀ s ∈ x.systemParameters.entries, s.value.isNaN = false) ∧
      (∀ handle owner, (x.copyFor handle owner).Alike Eq
        { c with
          owner := some owner
          groups := c.groups.map fun g => { g with owner := some owner } }) ∧
      ∀ handle handle' handle'' owner owner',
        ((x.copyFor handle owner).copyFor handle' owner').Alike Eq (x.copyFor handle'' owner') := by
  intro c
  have self : x.Alike Eq x := Object.alike_self rfl
  refine ⟨?_, (Object.alike_copy_left _).mpr self, fun room => handle_ne_nextHandle room hx,
    (linked_runAll hx).copy _, Object.copy_beq_self_iff _ x, fun handle owner => ?_, ?_⟩
  · rintro source slot rfl
    exact at?_step_copy hx slot
  · exact self.copyFor handle _ owner
  · intro handle handle' handle'' owner owner'
    have copies : ((x.copy handle).copy handle').Alike Eq (x.copy handle'') :=
      (Object.alike_copy_left _).mpr ((Object.alike_copy_left _).mpr
        ((Object.alike_copy_right _).mpr self))
    -- the first owner is put in after the first copy and is replaced after the second
    have last : (x.copyFor handle owner).copyFor handle' owner' =
        ((x.copy handle).copy handle').setOwner (some owner') :=
      Object.setOwner_setOwner (some owner) (some owner') ((x.copy handle).copy handle')
    rw [last]
    exact copies.setOwner (some owner')

/-- A tank with a part of every kind, whose pressure is not a number. -/
def unmeasured : List Command :=
  [.create "tank" (some ⟨3⟩), .edit "tank" (.addOperation "FILL" "Filling" 1),
    .edit "tank" (.editOperation .last (.addProperty (.new .active "speed" "Speed" "50"))),
    .edit "tank" (.addEquipment "inlet" "Inlet" "V1 V2"), .edit "tank" (.setMain "used" "Used" "1"),
    .edit "tank" (.addGroup "tanks" "Tanks" .units), .edit "tank" (.setGroup "tanks" "4 5"),
    .edit "tank" (.addSystem "pressure" "Pressure" ⟨0x7FF8000000000000⟩ "bar")]

theorem copy_faithful_unmeasured :
    ∃ x, (runAll unmeasured empty).at? (.slot "tank") = some x ∧
      (x.copy (runAll unmeasured empty).nextHandle).Alike Eq x ∧
      (x.copy (runAll unmeasured empty).nextHandle).handle ≠ x.handle ∧
      (x.copy (runAll unmeasured empty).nextHandle == x) = false := by
  have present : ((runAll unmeasured empty).at? (.slot "tank")).isSome := by cbv
  have room : takenAll unmeasured empty < 2 ^ 64 - 1 := by cbv
  have values : ((runAll unmeasured empty).at? (.slot "tank")).map
      (·.systemParameters.entries.map (·.value)) = some [⟨0x7FF8000000000000⟩] := by cbv
  have nan : (⟨0x7FF8000000000000⟩ : Number.Binary64).isNaN = true := by decide
  obtain ⟨x, hx⟩ := Option.isSome_iff_exists.mp present
  obtain ⟨-, alike, fresh, -, equal, -⟩ := copy_faithful hx
  refine ⟨x, hx, alike, fresh room, ?_⟩
  rw [hx, Option.map_some, Option.some.injEq] at values
  obtain ⟨s, hs, value⟩ := List.mem_map.mp (values ▸ List.mem_singleton_self _)
  rw [Bool.eq_false_iff]
  intro same
  rw [← value, equal.mp same s hs] at nan
  cases nan

end Plant.Workspace
