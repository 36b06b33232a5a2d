import Plant.Catalog.Basic
import Plant.Proofs.Related

/-!
# Templates

What is made of the definitions of a document, one by one, and what a copy of a catalog makes of its
templates. Each template is built from the definition at its position, under the handle at that
position behind the first one.

Results:
1. `getElem?_templatesFrom`, `exists_template`: the template at a position.
2. `keys_templatesFrom`: templates have the names of their definitions.
3. `templateByBasicName?_of_templatesFrom`: the template that is found for a definition's name.
4. `getElem?_copies`: the copy at a position.
-/
namespace Plant

namespace Handle

@[simp] theorem advance_zero (h : Handle) : h.advance 0 = h := by
  simp [advance]

theorem advance_next (h : Handle) (n : Nat) : h.next.advance n = h.advance (n + 1) := by
  simp only [advance, next, mk.injEq]
  rw [UInt64.ofNat_add, UInt64.add_comm (UInt64.ofNat n), ← UInt64.add_assoc]
  rfl

end Handle

namespace Catalog

variable {index : Nat} {seen : List String} {handle : Handle}

/-! ## Names -/

/-- What an object is found by in a catalog. -/
def keys (o : Object) : String × String := (o.name, o.basicName)

/-- Parts that are added one after the other leave the names of the object as they are. -/
theorem keys_foldl {α : Type} {f : Object → α → Object} (h : ∀ o a, keys (f o a) = keys o)
    (as : List α) (o : Object) : keys (as.foldl f o) = keys o := by
  induction as generalizing o with
  | nil => rfl
  | cons a as ih => exact (ih (f o a)).trans (h o a)

theorem keys_addAggregate (p : ActiveDefinition) (o : Object) :
    keys (p.addAggregate o) = keys o := by
  rw [ActiveDefinition.addAggregate]
  split <;> rfl

theorem keys_build (d : Definition) (level : Int32) :
    keys (d.build handle level) = (d.name, d.basicName) := by
  have main (o : Object) :
      keys (d.mainParameter.elim o fun p => o.setMain p.luaName p.name p.defaultValue) = keys o := by
    cases d.mainParameter <;> rfl
  unfold Definition.build
  rw [keys_foldl, keys_foldl, main, keys_foldl, keys_foldl, keys_foldl]
  · rfl
  · exact fun _ _ => rfl
  · exact fun _ _ => rfl
  · exact fun o p => keys_addAggregate p o
  · exact fun _ _ => rfl
  · exact fun _ _ => rfl

/-! ## Documents -/

theorem resolve_of_check {d : Definition} {level : Int32} (h : check index seen d = .ok level) :
    d.level.resolve = .ok level := by
  unfold check at h
  split at h
  · cases h
  split at h
  · cases h
  split at h
  · next hl =>
    cases h
    exact hl
  · cases h

/-- The templates that definitions make, each with its level and handle. -/
theorem getElem?_templatesFrom {ds : List Definition} {ts : List Object}
    (h : templatesFrom index seen handle ds = .ok ts) (i : Nat) :
    ts[i]? = ds[i]?.bind fun d => d.level.resolve.toOption.map fun level =>
      d.build (handle.advance i) level := by
  induction ds generalizing index seen handle ts i with
  | nil =>
    cases h
    rfl
  | cons d ds ih =>
    obtain ⟨level, hlevel, h⟩ := bind_eq_ok h
    obtain ⟨ts', hts, h⟩ := bind_eq_ok h
    cases h
    cases i with
    | zero => simp [resolve_of_check hlevel, Except.toOption]
    | succ i => simp only [List.getElem?_cons_succ, ih hts i, Handle.advance_next]

/-- The level of every definition is known when templates are made of all of them. -/
theorem exists_template {ds : List Definition} {ts : List Object}
    (h : templatesFrom index seen handle ds = .ok ts) {i : Nat} {d : Definition}
    (hd : ds[i]? = some d) : ∃ level, d.level.resolve = .ok level ∧
      ts[i]? = some (d.build (handle.advance i) level) := by
  induction ds generalizing index seen handle ts i with
  | nil => cases hd
  | cons d' ds ih =>
    obtain ⟨level, hlevel, h⟩ := bind_eq_ok h
    obtain ⟨ts', hts, h⟩ := bind_eq_ok h
    cases h
    cases i with
    | zero =>
      cases hd
      exact ⟨level, resolve_of_check hlevel, by rw [Handle.advance_zero]; rfl⟩
    | succ i =>
      obtain ⟨level', hlevel', ht⟩ := ih hts hd
      exact ⟨level', hlevel', by rwa [Handle.advance_next] at ht⟩

theorem length_templatesFrom {ds : List Definition} {ts : List Object}
    (h : templatesFrom index seen handle ds = .ok ts) : ts.length = begun index seen ds := by
  induction ds generalizing index seen handle ts with
  | nil =>
    cases h
    rfl
  | cons d ds ih =>
    obtain ⟨level, hlevel, h⟩ := bind_eq_ok h
    obtain ⟨ts', hts, h⟩ := bind_eq_ok h
    cases h
    simp only [begun, hlevel, List.length_cons, ih hts]

theorem keys_templatesFrom {ds : List Definition} {ts : List Object}
    (h : templatesFrom index seen handle ds = .ok ts) :
    ts.map keys = ds.map fun d => (d.name, d.basicName) := by
  induction ds generalizing index seen handle ts with
  | nil =>
    cases h
    rfl
  | cons d ds ih =>
    obtain ⟨level, -, h⟩ := bind_eq_ok h
    obtain ⟨ts', hts, h⟩ := bind_eq_ok h
    cases h
    rw [List.map_cons, List.map_cons, keys_build, ih hts]

theorem names_templatesFrom {ds : List Definition} {ts : List Object}
    (h : templatesFrom index seen handle ds = .ok ts) : ts.map (·.name) = ds.map (·.name) := by
  simpa [keys, Function.comp_def] using congrArg (List.map Prod.fst) (keys_templatesFrom h)

theorem basicNames_templatesFrom {ds : List Definition} {ts : List Object}
    (h : templatesFrom index seen handle ds = .ok ts) :
    ts.map (·.basicName) = ds.map (·.basicName) := by
  simpa [keys, Function.comp_def] using congrArg (List.map Prod.snd) (keys_templatesFrom h)

/-- The template that is asked for by a name is that of the first definition with that name. -/
theorem templateByBasicName?_of_templatesFrom {ds : List Definition} {c : Catalog}
    (h : templatesFrom index seen handle ds = .ok c.templates) (basicName : String) :
    c.templateByBasicName? basicName =
      (ds.findIdx? (·.basicName == basicName)).bind (c.templates[·]?) := by
  have first : (ds.map (·.basicName)).findIdx? (· == basicName) =
      (c.templates.map (·.basicName)).findIdx? (· == basicName) := by
    rw [basicNames_templatesFrom h]
  rw [List.findIdx?_map, List.findIdx?_map] at first
  rw [templateByBasicName?, List.find?_eq_bind_findIdx?_getElem?]
  exact congrArg (fun i : Option Nat => i.bind (c.templates[·]?)) first.symm

theorem ofDocument_eq_ok_iff {d : Document} {c : Catalog} :
    ofDocument handle d = .ok c ↔ templatesFrom 0 [] handle d.templates = .ok c.templates := by
  unfold ofDocument
  cases templatesFrom 0 [] handle d.templates with
  | error fault => exact ⟨fun h => (nomatch h), fun h => (nomatch h)⟩
  | ok ts =>
    cases c
    simp [Except.map]

theorem ofDocument_eq_error_iff {d : Document} {f : Fault} :
    ofDocument handle d = .error f ↔ templatesFrom 0 [] handle d.templates = .error f := by
  unfold ofDocument
  cases templatesFrom 0 [] handle d.templates <;> simp [Except.map]

/-! ## Copies -/

theorem getElem?_copies (os : List Object) (handle : Handle) (i : Nat) :
    (copies handle os)[i]? = os[i]?.map (·.copy (handle.advance i)) := by
  induction os generalizing handle i with
  | nil => rfl
  | cons o os ih =>
    cases i with
    | zero => simp [copies]
    | succ i => simp only [copies, List.getElem?_cons_succ, ih, Handle.advance_next]

theorem length_copies (os : List Object) (handle : Handle) :
    (copies handle os).length = os.length := by
  induction os generalizing handle with
  | nil => rfl
  | cons o os ih => rw [copies, List.length_cons, List.length_cons, ih]

end Catalog

end Plant
