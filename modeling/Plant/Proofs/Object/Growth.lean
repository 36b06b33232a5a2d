import Plant.Object.Edit
import Plant.Proofs.Entry
import Plant.Proofs.Related

/-!
# Lists that only grow

Whatever is done to an object, its lists lose nothing: new parts come at the end, and of a part that
is there only the value changes and whether it is disabled, or the owner in the case of a group. So
the first part of a name stays the first one, whatever is added behind it, and what a lookup has
found once it finds at the same position ever after.

Results:
1. `Growth.refl`, `Growth.trans`, `Growth.findIdx?_eq`, `Growth.updateFirst?_eq`: growing lists,
   and searches and changes in them.
2. `Object.grown_of_edit?`: one edit makes the lists grow.
3. `Object.grows_editAll`: so does every sequence of edits, and lookups keep their positions.
-/
namespace Plant

variable {α β : Type} {R : α → α → Prop}

/-! ## Labels -/

/-- What no edit of a parameter changes. -/
def Parameter.label (p : Parameter) : ParameterKind × String × String × String :=
  (p.kind, p.luaName, p.name, p.defaultValue)

/-- What no edit of an operation changes. -/
def Operation.label (op : Operation) : String × String × Int32 := (op.luaName, op.name, op.position)

/-- What no edit of a group changes. -/
def Group.label (g : Group) : String × String × Admission := (g.luaName, g.name, g.admission)

/-- What no edit of a system parameter changes. -/
def SystemParameter.label (s : SystemParameter) : UInt32 × String × String × String :=
  (s.index, s.luaName, s.name, s.meter)

/-- The lists of the later object begin with those of the earlier one, and so do the properties of
each operation, as far as labels go. -/
structure Object.Extends (o o' : Object) : Prop where
  operations : o.operations.map Operation.label <+: o'.operations.map Operation.label
  properties : ∀ (i : Nat) (a : Operation), o.operations[i]? = some a →
    ∃ b, o'.operations[i]? = some b ∧
      a.properties.map Parameter.label <+: b.properties.map Parameter.label
  equipment : o.equipment.map Parameter.label <+: o'.equipment.map Parameter.label
  aggregateParameters :
    o.aggregateParameters.map Parameter.label <+: o'.aggregateParameters.map Parameter.label
  groups : o.groups.map Group.label <+: o'.groups.map Group.label
  systemParameters : o.systemParameters.entries.map SystemParameter.label <+:
    o'.systemParameters.entries.map SystemParameter.label

/-- If the test finds an element in the earlier list, and that is what was looked up there, then it
finds one in the later list at the same position, which is looked up there and has its label. -/
def Resolves (label : α → β) (p : α → Bool) (as bs : List α) (found found' : Option α) : Prop :=
  ∀ a, found = some a → ∃ i b, as.findIdx? p = some i ∧ as[i]? = some a ∧
    bs.findIdx? p = some i ∧ bs[i]? = some b ∧ found' = some b ∧ label b = label a

/-- Every lookup that finds something in the earlier object finds it at the same position in the
later one, and an edit by name reaches the entry at the position where the name was found. -/
structure Object.Keeps (o o' : Object) : Prop where
  operationByName : ∀ name, Resolves Operation.label (·.name == name) o.operations o'.operations
    (o.operationByName? name) (o'.operationByName? name)
  operation : ∀ luaName, Resolves Operation.label (·.luaName == luaName) o.operations o'.operations
    (o.operation? luaName) (o'.operation? luaName)
  property : ∀ (i : Nat) (a b : Operation), o.operations[i]? = some a → o'.operations[i]? = some b →
    ∀ luaName, Resolves Parameter.label (·.luaName == luaName) a.properties b.properties
      (a.property? luaName) (b.property? luaName)
  equipment : ∀ luaName, Resolves Parameter.label (·.luaName == luaName) o.equipment o'.equipment
    (o.equipment? luaName) (o'.equipment? luaName)
  aggregateParameter : ∀ luaName, Resolves Parameter.label (·.luaName == luaName)
    o.aggregateParameters o'.aggregateParameters (o.aggregateParameter? luaName)
    (o'.aggregateParameter? luaName)
  group : ∀ luaName, Resolves Group.label (·.luaName == luaName) o.groups o'.groups
    (o.group? luaName) (o'.group? luaName)
  systemParameter : ∀ luaName, Resolves SystemParameter.label (·.luaName == luaName)
    o.systemParameters.entries o'.systemParameters.entries (o.systemParameters.find? luaName)
    (o'.systemParameters.find? luaName)
  systemParameterAt : ∀ index, Resolves SystemParameter.label (·.index == index)
    o.systemParameters.entries o'.systemParameters.entries (o.systemParameters.findIndex? index)
    (o'.systemParameters.findIndex? index)
  editOperation : ∀ luaName (i : Nat) (op : Operation),
    o.operations.findIdx? (·.luaName == luaName) = some i → o'.operations[i]? = some op →
    ∀ e, o'.editOperation? (.named luaName) e =
      (op.edit? e).map fun op => { o' with operations := o'.operations.set i op }
  editProperty : ∀ (i : Nat) (a b : Operation), o.operations[i]? = some a →
    o'.operations[i]? = some b → ∀ luaName (j : Nat) (p : Parameter),
    a.properties.findIdx? (·.luaName == luaName) = some j → b.properties[j]? = some p →
    ∀ e, b.editProperty? (.named luaName) e =
      some { b with properties := b.properties.set j (p.edit e) }
  editEquipment : ∀ luaName (i : Nat) (p : Parameter),
    o.equipment.findIdx? (·.luaName == luaName) = some i → o'.equipment[i]? = some p →
    ∀ e, o'.editEquipment? (.named luaName) e =
      some { o' with equipment := o'.equipment.set i (p.edit e) }
  editAggregate : ∀ luaName (i : Nat) (p : Parameter),
    o.aggregateParameters.findIdx? (·.luaName == luaName) = some i →
    o'.aggregateParameters[i]? = some p →
    ∀ e, o'.editAggregate? (.named luaName) e =
      some { o' with aggregateParameters := o'.aggregateParameters.set i (p.edit e) }
  setGroup : ∀ luaName (i : Nat) (g : Group),
    o.groups.findIdx? (·.luaName == luaName) = some i → o'.groups[i]? = some g →
    ∀ value, o'.setGroup? luaName value =
      some { o' with groups := o'.groups.set i (g.setValue value) }
  setSystem : ∀ luaName (i : Nat) (s : SystemParameter),
    o.systemParameters.entries.findIdx? (·.luaName == luaName) = some i →
    o'.systemParameters.entries[i]? = some s →
    ∀ value, o'.setSystem? luaName value =
      some { o' with
        systemParameters := { o'.systemParameters with
          entries := o'.systemParameters.entries.set i { s with value } } }

/-! ## Growing lists -/

/-- The second list has the elements of the first, each related to what it was, and maybe more
behind them. -/
inductive Growth (R : α → α → Prop) : List α → List α → Prop
  | nil (bs : List α) : Growth R [] bs
  | cons {a b : α} {as bs : List α} : R a b → Growth R as bs → Growth R (a :: as) (b :: bs)

namespace Growth

variable {as bs cs : List α}

theorem of_forall₂ (h : List.Forall₂ R as bs) : Growth R as bs := by
  induction h with
  | nil => exact .nil []
  | cons hab _ ih => exact .cons hab ih

theorem append (hR : ∀ a, R a a) (as bs : List α) : Growth R as (as ++ bs) := by
  induction as with
  | nil => exact .nil bs
  | cons a as ih => exact .cons (hR a) ih

theorem refl (hR : ∀ a, R a a) (as : List α) : Growth R as as :=
  of_forall₂ (List.forall₂_same.mpr fun a _ => hR a)

theorem trans (hR : ∀ {a b c}, R a b → R b c → R a c) (h : Growth R as bs) (h' : Growth R bs cs) :
    Growth R as cs := by
  induction h generalizing cs with
  | nil => exact .nil cs
  | cons hab _ ih =>
    cases h' with
    | cons hbc h' => exact .cons (hR hab hbc) (ih h')

/-- A change that relates the entry it changes to what that was makes the list grow by nothing. -/
theorem of_touched {f : α → Option α} (hR : ∀ a, R a a) (hf : ∀ a b, f a = some b → R a b)
    (h : List.Forall₂ (Touched f) as bs) : Growth R as bs := by
  refine of_forall₂ (h.imp fun a b hab => ?_)
  rcases hab with rfl | hab
  · exact hR b
  · exact hf a b hab

theorem map_prefix {label : α → β} (hR : ∀ a b, R a b → label b = label a)
    (h : Growth R as bs) : as.map label <+: bs.map label := by
  induction h with
  | nil bs => exact List.nil_prefix
  | cons hab _ ih =>
    rw [List.map_cons, List.map_cons, hR _ _ hab]
    exact List.cons_prefix_cons.mpr ⟨rfl, ih⟩

theorem getElem? (h : Growth R as bs) {i : Nat} {a : α} (ha : as[i]? = some a) :
    ∃ b, bs[i]? = some b ∧ R a b := by
  induction h generalizing i with
  | nil => cases ha
  | cons hab _ ih =>
    cases i with
    | zero =>
      cases ha
      exact ⟨_, rfl, hab⟩
    | succ i => exact ih ha

theorem rel_of_getElem? (h : Growth R as bs) {i : Nat} {a b : α} (ha : as[i]? = some a)
    (hb : bs[i]? = some b) : R a b := by
  obtain ⟨b', hb', hab⟩ := h.getElem? ha
  cases Option.some.inj (hb.symm.trans hb')
  exact hab

/-- What stands first by a test that does not tell related elements apart stays first. -/
theorem findIdx?_eq {p : α → Bool} (hp : ∀ a b, R a b → p b = p a) (h : Growth R as bs) {i : Nat}
    (found : as.findIdx? p = some i) : bs.findIdx? p = some i := by
  induction h generalizing i with
  | nil => cases found
  | @cons a b as bs hab _ ih =>
    rw [List.findIdx?_cons] at found ⊢
    rw [hp a b hab]
    split at found
    case isTrue here => rwa [if_pos here]
    case isFalse later =>
      obtain ⟨j, hj, rfl⟩ := Option.map_eq_some_iff.mp found
      rw [if_neg later, ih hj]
      rfl

/-- So a change of what stands first by the test reaches what stood first before. -/
theorem updateFirst?_eq {p : α → Bool} (hp : ∀ a b, R a b → p b = p a) (h : Growth R as bs)
    {i : Nat} (found : as.findIdx? p = some i) {b : α} (hb : bs[i]? = some b) (f : α → Option α) :
    updateFirst? p f bs = (f b).map fun b => bs.set i b :=
  updateFirst?_of_findIdx? (h.findIdx?_eq hp found) hb f

/-- And what a search has found is found again. -/
theorem resolves {label : α → β} {p : α → Bool} (hlabel : ∀ a b, R a b → label b = label a)
    (hp : ∀ a b, R a b → p b = p a) (h : Growth R as bs) :
    Resolves label p as bs (as.find? p) (bs.find? p) := by
  intro a ha
  rw [List.find?_eq_bind_findIdx?_getElem?] at ha
  obtain ⟨i, hi, ha⟩ := Option.bind_eq_some_iff.mp ha
  obtain ⟨b, hb, hab⟩ := h.getElem? ha
  have found : bs.findIdx? p = some i := h.findIdx?_eq hp hi
  refine ⟨i, b, hi, ha, found, hb, ?_, hlabel a b hab⟩
  rw [List.find?_eq_bind_findIdx?_getElem?, found]
  exact hb

end Growth

/-! ## Parts that grow -/

/-- What became of the first one has its label. -/
def SameLabel (label : α → β) (a b : α) : Prop := label b = label a

namespace SameLabel

variable {label : α → β} {a b c : α}

theorem refl (label : α → β) (a : α) : SameLabel label a a := rfl

theorem trans (h : SameLabel label a b) (h' : SameLabel label b c) : SameLabel label a c :=
  Eq.trans h' h

end SameLabel

/-- An operation and what edits may have made of it. -/
structure Operation.Grown (a b : Operation) : Prop where
  label : SameLabel Operation.label a b
  properties : Growth (SameLabel Parameter.label) a.properties b.properties

/-- An object and what edits may have made of it. -/
structure Object.Grown (o o' : Object) : Prop where
  operations : Growth Operation.Grown o.operations o'.operations
  equipment : Growth (SameLabel Parameter.label) o.equipment o'.equipment
  aggregateParameters :
    Growth (SameLabel Parameter.label) o.aggregateParameters o'.aggregateParameters
  groups : Growth (SameLabel Group.label) o.groups o'.groups
  systemParameters :
    Growth (SameLabel SystemParameter.label) o.systemParameters.entries o'.systemParameters.entries

theorem Parameter.label_edit (e : Parameter.Edit) (p : Parameter) : (p.edit e).label = p.label := by
  rcases e with ⟨_ | text, _ | disabled⟩ <;> rfl

/-- An edit of one of some parameters. -/
theorem Parameter.growth_of_update? {which : Entry} {e : Parameter.Edit} {ps qs : List Parameter}
    (h : which.update? Parameter.luaName (fun p => some (p.edit e)) ps = some qs) :
    Growth (SameLabel Parameter.label) ps qs := by
  refine .of_touched (.refl _) (fun p q hpq => ?_) (Entry.forall₂_of_update? h)
  cases hpq
  exact p.label_edit e

namespace Operation

theorem grown_self (a : Operation) : a.Grown a := ⟨rfl, .refl (.refl _) a.properties⟩

theorem Grown.trans {a b c : Operation} (h : a.Grown b) (h' : b.Grown c) : a.Grown c :=
  ⟨h.label.trans h'.label, h.properties.trans .trans h'.properties⟩

theorem grown_of_edit? {a b : Operation} {e : Operation.Edit} (he : a.edit? e = some b) :
    a.Grown b := by
  cases e with
  | addProperty p =>
    cases he
    exact ⟨rfl, .append (.refl _) a.properties _⟩
  | editProperty which e =>
    obtain ⟨properties, h, rfl⟩ := Option.map_eq_some_iff.mp he
    exact ⟨rfl, Parameter.growth_of_update? h⟩

end Operation

namespace Object

variable {o o' o'' : Object}

/-! ## Edits -/

theorem grown_self (o : Object) : o.Grown o where
  operations := .refl Operation.grown_self _
  equipment := .refl (.refl _) _
  aggregateParameters := .refl (.refl _) _
  groups := .refl (.refl _) _
  systemParameters := .refl (.refl _) _

theorem Grown.trans (h : o.Grown o') (h' : o'.Grown o'') : o.Grown o'' where
  operations := h.operations.trans .trans h'.operations
  equipment := h.equipment.trans .trans h'.equipment
  aggregateParameters := h.aggregateParameters.trans .trans h'.aggregateParameters
  groups := h.groups.trans .trans h'.groups
  systemParameters := h.systemParameters.trans .trans h'.systemParameters

theorem grown_addOperation (op : Operation) (o : Object) : o.Grown (o.addOperation op) := by
  refine { grown_self o with operations := ?_ }
  -- The placeholder comes in front of the new operation only where there was none to be moved.
  show Growth _ o.operations (_ ++ _)
  split
  case isTrue none =>
    rw [List.isEmpty_iff.mp none]
    exact .nil _
  case isFalse => exact .append Operation.grown_self o.operations _

/-- No edit takes a part away or puts one in front of another. -/
theorem grown_of_edit? {e : Edit} (he : o.edit? e = some o') : o.Grown o' := by
  cases e with
  | setName | setEplanName | setLevel | setBasicName | setBindingName | setPid | setMain =>
    cases he
    exact { grown_self o with }
  | setOwner owner =>
    cases he
    have groups : ∀ g : Group, SameLabel Group.label g (g.setOwner owner) := fun _ => rfl
    exact { grown_self o with groups := .of_forall₂ (forall₂_map groups o.groups) }
  | addOperation luaName name position =>
    cases he
    exact grown_addOperation _ o
  | editOperation which e =>
    obtain ⟨operations, h, rfl⟩ := Option.map_eq_some_iff.mp he
    exact { grown_self o with
      operations := .of_touched Operation.grown_self (fun _ _ => Operation.grown_of_edit?)
        (Entry.forall₂_of_update? h) }
  | addEquipment luaName name text =>
    cases he
    exact { grown_self o with equipment := .append (.refl _) o.equipment _ }
  | editEquipment which e =>
    obtain ⟨equipment, h, rfl⟩ := Option.map_eq_some_iff.mp he
    exact { grown_self o with equipment := Parameter.growth_of_update? h }
  | addActive luaName name text | addActiveBool luaName name text =>
    cases he
    exact { grown_self o with
      aggregateParameters := .append (.refl _) o.aggregateParameters _ }
  | editAggregate which e =>
    obtain ⟨aggregateParameters, h, rfl⟩ := Option.map_eq_some_iff.mp he
    exact { grown_self o with aggregateParameters := Parameter.growth_of_update? h }
  | editMain e =>
    obtain ⟨p, -, rfl⟩ := Option.map_eq_some_iff.mp he
    exact { grown_self o with }
  | addGroup luaName name admission =>
    cases he
    exact { grown_self o with groups := .append (.refl _) o.groups _ }
  | setGroup luaName value =>
    obtain ⟨groups, h, rfl⟩ := Option.map_eq_some_iff.mp he
    refine { grown_self o with
      groups := .of_touched (.refl _) ?_ (EntryLemmas.forall₂_of_updateFirst? h) }
    intro g g' hg
    cases hg
    rfl
  | addSystem luaName name value meter =>
    cases he
    exact { grown_self o with
      systemParameters := .append (.refl _) o.systemParameters.entries _ }
  | setSystem luaName value =>
    obtain ⟨s, hs, rfl⟩ := Option.map_eq_some_iff.mp he
    obtain ⟨entries, h, rfl⟩ := Option.map_eq_some_iff.mp hs
    refine { grown_self o with
      systemParameters := .of_touched (.refl _) ?_ (EntryLemmas.forall₂_of_updateFirst? h) }
    intro s s' hs
    cases hs
    rfl

theorem grown_editAll (es : List Edit) (o : Object) : o.Grown (o.editAll es) := by
  induction es generalizing o with
  | nil => exact grown_self o
  | cons e es ih =>
    refine Grown.trans ?_ (ih (o.edit e))
    rw [edit]
    cases he : o.edit? e with
    | none => exact grown_self o
    | some o' => exact grown_of_edit? he

/-! ## Lookups -/

theorem Grown.extends (h : o.Grown o') : o.Extends o' where
  operations := h.operations.map_prefix fun _ _ hop => hop.label
  properties i a ha := by
    obtain ⟨b, hb, hab⟩ := h.operations.getElem? ha
    exact ⟨b, hb, hab.properties.map_prefix fun _ _ hp => hp⟩
  equipment := h.equipment.map_prefix fun _ _ hp => hp
  aggregateParameters := h.aggregateParameters.map_prefix fun _ _ hp => hp
  groups := h.groups.map_prefix fun _ _ hg => hg
  systemParameters := h.systemParameters.map_prefix fun _ _ hs => hs

theorem Grown.keeps (h : o.Grown o') : o.Keeps o' := by
  have parameter (luaName : String) (p q : Parameter) (hpq : SameLabel Parameter.label p q) :
      (q.luaName == luaName) = (p.luaName == luaName) := by
    rw [show q.luaName = p.luaName from congrArg (·.2.1) hpq]
  have operation (luaName : String) (a b : Operation) (hab : a.Grown b) :
      (b.luaName == luaName) = (a.luaName == luaName) := by
    rw [show b.luaName = a.luaName from congrArg (·.1) hab.label]
  have system (luaName : String) (s s' : SystemParameter)
      (hs : SameLabel SystemParameter.label s s') :
      (s'.luaName == luaName) = (s.luaName == luaName) := by
    rw [show s'.luaName = s.luaName from congrArg (·.2.1) hs]
  have group (luaName : String) (g g' : Group) (hg : SameLabel Group.label g g') :
      (g'.luaName == luaName) = (g.luaName == luaName) := by
    rw [show g'.luaName = g.luaName from congrArg (·.1) hg]
  constructor
  case operationByName =>
    intro name
    refine h.operations.resolves (fun _ _ hab => hab.label) fun a b hab => ?_
    rw [show b.name = a.name from congrArg (·.2.1) hab.label]
  case operation =>
    exact fun luaName => h.operations.resolves (fun _ _ hab => hab.label) (operation luaName)
  case property =>
    intro i a b ha hb luaName
    have hab := h.operations.rel_of_getElem? ha hb
    exact hab.properties.resolves (fun _ _ hp => hp) (parameter luaName)
  case equipment =>
    exact fun luaName => h.equipment.resolves (fun _ _ hp => hp) (parameter luaName)
  case aggregateParameter =>
    exact fun luaName => h.aggregateParameters.resolves (fun _ _ hp => hp) (parameter luaName)
  case group => exact fun luaName => h.groups.resolves (fun _ _ hg => hg) (group luaName)
  case systemParameter =>
    exact fun luaName => h.systemParameters.resolves (fun _ _ hs => hs) (system luaName)
  case systemParameterAt =>
    intro index
    refine h.systemParameters.resolves (fun _ _ hs => hs) fun s s' hs => ?_
    rw [show s'.index = s.index from congrArg (·.1) hs]
  case editOperation =>
    intro luaName i op hi hop e
    rw [editOperation?, Entry.update?, h.operations.updateFirst?_eq (operation luaName) hi hop,
      Option.map_map]
    rfl
  case editProperty =>
    intro i a b ha hb luaName j p hj hp e
    have hab := h.operations.rel_of_getElem? ha hb
    rw [Operation.editProperty?, Entry.update?,
      hab.properties.updateFirst?_eq (parameter luaName) hj hp]
    rfl
  case editEquipment =>
    intro luaName i p hi hp e
    rw [editEquipment?, Entry.update?, h.equipment.updateFirst?_eq (parameter luaName) hi hp]
    rfl
  case editAggregate =>
    intro luaName i p hi hp e
    rw [editAggregate?, Entry.update?,
      h.aggregateParameters.updateFirst?_eq (parameter luaName) hi hp]
    rfl
  case setGroup =>
    intro luaName i g hi hg value
    rw [setGroup?, h.groups.updateFirst?_eq (group luaName) hi hg]
    rfl
  case setSystem =>
    intro luaName i s hi hs value
    rw [setSystem?, SystemParameters.setValue?,
      h.systemParameters.updateFirst?_eq (system luaName) hi hs]
    rfl

/-- Whatever is done to an object later, its lists begin with what is in them now, and what is
looked up with success now is found at the same position then, whatever was added behind it. -/
theorem grows_editAll (o : Object) (es : List Edit) :
    o.Extends (o.editAll es) ∧ o.Keeps (o.editAll es) :=
  ⟨(grown_editAll es o).extends, (grown_editAll es o).keeps⟩

end Object

end Plant
