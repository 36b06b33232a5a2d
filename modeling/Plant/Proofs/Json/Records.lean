import Plant.Proofs.Json.Reading

/-!
# Reading lists and records

A list is read item by item, a record member by member, in whatever order its keys stand. While the
members are read, those fields hold their values whose keys have been seen, so the order does not
matter, and what is left out in the end has its default.

Results:
1. `reads_list`: a list is read if its items are.
2. `readMember?_known`, `readMember?_unknown`: a member fills the slot of its field, or none.
3. `reads_record`: a record is read, from whichever of its notations, if its fields are.
-/
namespace Plant.Json

variable {α : Type} {closing : Char} {first : Bool} {s s' v i m text rest : List Char}
  {is ms : List (List Char)}

/-! ## What is left of a list or record -/

/-- The items or members that are still to come, before the rest of a document. A comma stands
before each of them but the first of all. -/
inductive Remains (closing : Char) (rest : List Char) :
    Bool → List (List Char) → List Char → Prop
  | none {s : List Char} : Spaces s → Remains closing rest true [] (s ++ closing :: rest)
  | first (i : List Char) (is : List (List Char)) :
      Remains closing rest true (i :: is) (i ++ (is.flatMap (',' :: ·) ++ closing :: rest))
  | more {s : List Char} (is : List (List Char)) : Spaces s →
      Remains closing rest false is (s ++ (is.flatMap (',' :: ·) ++ closing :: rest))

/-- The reader finds the value in the text, between white space. -/
def ReadsItem (item : List Char → Except Fault (α × List Char)) (a : α) (i : List Char) : Prop :=
  ∃ s v s', Spaces s ∧ Spaces s' ∧ Opens v ∧ i = s ++ v ++ s' ∧
    ∀ rest, Ends rest → item (v ++ rest) = .ok (a, rest)

namespace RecordLemmas

theorem remains_of_enclosed {opening : Char} (h : Enclosed opening closing is v)
    (rest : List Char) :
    ∃ text, v ++ rest = opening :: text ∧ Remains closing rest true is text := by
  cases h with
  | @empty s hs => exact ⟨s ++ closing :: rest, by simp, .none hs⟩
  | items i is => exact ⟨_, by simp, .first i is⟩

end RecordLemmas

open RecordLemmas PassingLemmas

namespace Remains

/-- After the last item there is nothing but the end. -/
theorem finished (h : Remains closing rest first [] text) :
    ∃ s, Spaces s ∧ text = s ++ closing :: rest := by
  cases h with
  | none hs | more is hs => exact ⟨_, hs, rfl⟩

theorem none_next (h : Remains ']' rest first [] text) :
    nextItem? first text = .ok Option.none := by
  obtain ⟨s, hs, rfl⟩ := h.finished
  exact nextItem?_end hs first rest

theorem closes (h : Remains closing rest first [] text) (hc : isSpace closing = false) :
    readClosing closing text = .ok rest := by
  obtain ⟨s, hs, rfl⟩ := h.finished
  exact readClosing_append hs hc rest

theorem again (h : Remains closing rest first [] text) :
    Remains closing rest false [] text := by
  obtain ⟨s, hs, rfl⟩ := h.finished
  exact .more [] hs

/-- The next item is read, and what is left then is left of the list. -/
theorem next_item {item : List Char → Except Fault (α × List Char)} {a : α}
    (h : Remains ']' rest first (i :: is) text) (hi : ReadsItem item a i) :
    ∃ next text', nextItem? first text = .ok (some next) ∧ item next = .ok (a, text') ∧
      Remains ']' rest false is text' := by
  obtain ⟨t, v, t', ht, ht', hv, rfl, reads⟩ := hi
  refine ⟨v ++ (t' ++ (is.flatMap (',' :: ·) ++ ']' :: rest)), _, ?_,
    reads _ (ht'.ends (ends_items (by decide) is rest)), .more is ht'⟩
  cases h with
  | first =>
    rw [← nextItem?_first ht hv]
    simp
  | more _ hs =>
    rw [← nextItem?_more hs ht hv]
    simp

end Remains

/-! ## Lists -/

namespace RecordLemmas

theorem length_le_flatMap (is : List (List Char)) :
    is.length ≤ (is.flatMap (',' :: ·)).length := by
  induction is with
  | nil => exact Nat.le_refl 0
  | cons i is ih =>
    simp only [List.flatMap_cons, List.length_cons, List.length_append]
    omega

theorem length_le_of_mem (hi : i ∈ is) : i.length ≤ (is.flatMap (',' :: ·)).length := by
  induction hi with
  | head is =>
    simp only [List.flatMap_cons, List.length_cons, List.length_append]
    omega
  | tail j _ ih =>
    simp only [List.flatMap_cons, List.length_cons, List.length_append]
    omega

/-- There are fewer items than characters, and no item is longer than the list. -/
theorem lengths_of_enclosed {opening : Char} (h : Enclosed opening closing is v) :
    is.length < v.length ∧ ∀ i ∈ is, i.length ≤ v.length := by
  cases h with
  | empty => exact ⟨Nat.zero_lt_succ _, fun _ h => nomatch h⟩
  | items i is =>
    have count := length_le_flatMap is
    simp only [List.length_cons, List.length_append, List.length_nil, List.forall_mem_cons]
    refine ⟨by omega, by omega, fun j hj => ?_⟩
    have := length_le_of_mem hj
    omega

theorem readsItem_of_reads {shape : Shape α} {depth : Nat} {a : α} {P : List Char → Prop}
    (h : shape.Reads depth a P) (hi : ∃ v, P v ∧ Pads v i) {bound room : Nat}
    (length : i.length ≤ bound) (hroom : depth ≤ room) :
    ReadsItem (shape.read bound room) a i := by
  obtain ⟨v, hv, s, s', hs, hs', rfl⟩ := hi
  simp only [List.length_append] at length
  exact ⟨s, v, s', hs, hs', h.opens v hv, rfl, fun rest hrest =>
    h.read bound room [] v rest spaces_nil hv (by omega) hroom hrest⟩

theorem readsItems {shape : Shape α} {depth : Nat} {P : α → List Char → Prop} {as : List α}
    (h : ∀ a ∈ as, shape.Reads depth a (P a))
    (his : List.Forall₂ (fun a i => ∃ v, P a v ∧ Pads v i) as is) {bound room : Nat}
    (length : ∀ i ∈ is, i.length ≤ bound) (hroom : depth ≤ room) :
    List.Forall₂ (ReadsItem (shape.read bound room)) as is := by
  induction his with
  | nil => exact .nil
  | cons hi _ ih =>
    rw [List.forall_mem_cons] at h length
    exact .cons (readsItem_of_reads h.1 hi length.1 hroom) (ih h.2 length.2)

theorem readList_remains {item : List Char → Except Fault (α × List Char)} {as : List α}
    (h : List.Forall₂ (ReadsItem item) as is) (left : Remains ']' rest first is text) {fuel : Nat}
    (hfuel : is.length < fuel) :
    ∃ text', readList item fuel first text = .ok (as, text') ∧
      readClosing ']' text' = .ok rest := by
  induction h generalizing fuel first text with
  | nil =>
    obtain _ | fuel := fuel
    · exact absurd hfuel (Nat.not_lt_zero _)
    · exact ⟨text, by simp [readList, left.none_next, bind, Except.bind], left.closes rfl⟩
  | @cons a i as is hi _ ih =>
    obtain _ | fuel := fuel
    · exact absurd hfuel (Nat.not_lt_zero _)
    · obtain ⟨next, text', found, value, left⟩ := left.next_item hi
      obtain ⟨text'', more, closes⟩ := ih left (Nat.lt_of_succ_lt_succ hfuel)
      exact ⟨text'', by simp [readList, found, value, more, bind, Except.bind], closes⟩

end RecordLemmas

theorem reads_list {shape : Shape α} {depth : Nat} {P : α → List Char → Prop} {as : List α}
    (h : ∀ a ∈ as, shape.Reads depth a (P a)) :
    (Shape.list shape).Reads (depth + 1) as (Listed P as) where
  opens v hv := by
    obtain ⟨is, -, hv⟩ := hv
    exact opens_of_enclosed hv rfl (by decide)
  read bound room s v rest hs hv length hroom _ := by
    obtain ⟨is, his, hv⟩ := hv
    obtain _ | room := room
    · exact absurd hroom (Nat.not_succ_le_zero depth)
    obtain ⟨count, short⟩ := lengths_of_enclosed hv
    obtain ⟨text, begins, left⟩ := remains_of_enclosed hv rest
    have items : List.Forall₂ (ReadsItem (shape.read bound room)) as is :=
      readsItems h his (fun i hi => Nat.le_trans (short i hi) length)
        (Nat.le_of_succ_le_succ hroom)
    obtain ⟨text', read, closes⟩ :=
      readList_remains items left (Nat.lt_succ_of_lt (Nat.lt_of_lt_of_le count length))
    rw [begins, Shape.read, skipSpace_append hs (starts_cons rfl _)]
    simp [read, closes, bind, Except.bind]

/-! ## Fields -/

namespace Fields

/-- The fields of a record with such values are written as the grammar says, each read by its
shape, and one that may be left out has its default then. -/
def Describes (depth : Nat) : {σ β : Type} → Fields σ β → β → List Field → Prop
  | _, _, .done, _, [] => True
  | _, _, .required key shape rest, (a, b), f :: fs =>
    f.key = key ∧ ¬ f.mayLack ∧ shape.Reads depth a f.value ∧ rest.Describes depth b fs
  | _, _, .defaulted key shape value rest, (a, b), f :: fs =>
    f.key = key ∧ (f.mayLack → a = value) ∧ shape.Reads depth a f.value ∧ rest.Describes depth b fs
  | _, _, _, _, _ => False

section Describes

variable {α σ β : Type} {shape : Shape α} {rest : Fields σ β} {depth : Nat} {a : α} {b : β}
  {fs : List Field}

theorem describes_done {depth : Nat} : Fields.done.Describes depth () [] := trivial

theorem Describes.required {P : List Char → Prop} (key : String) (reads : shape.Reads depth a P)
    (h : rest.Describes depth b fs) :
    (Fields.required key shape rest).Describes depth (a, b) (.required key P :: fs) :=
  ⟨rfl, not_false, reads, h⟩

theorem Describes.defaulted {P : α → List Char → Prop} (key : String) (value : α)
    (reads : shape.Reads depth a (P a)) (h : rest.Describes depth b fs) :
    (Fields.defaulted key shape value rest).Describes depth (a, b)
      (.defaulted key value a P :: fs) :=
  ⟨rfl, id, reads, h⟩

end Describes

/-- The slots when the fields with the keys `seen` have been read. -/
def fill (seen : List String) : {σ β : Type} → Fields σ β → β → σ
  | _, _, .done, _ => ()
  | _, _, .required key _ rest, (a, b) => (if key ∈ seen then some a else none, rest.fill seen b)
  | _, _, .defaulted key _ _ rest, (a, b) => (if key ∈ seen then some a else none, rest.fill seen b)

theorem fill_nil : {σ β : Type} → (fields : Fields σ β) → (b : β) → fields.fill [] b = fields.empty
  | _, _, .done, _ => rfl
  | _, _, .required key _ rest, (a, b) => by
    rw [fill, empty, fill_nil rest b, if_neg (by exact List.not_mem_nil)]
  | _, _, .defaulted key _ _ rest, (a, b) => by
    rw [fill, empty, fill_nil rest b, if_neg (by exact List.not_mem_nil)]

variable {depth : Nat} {seen : List String} {fs : List Field} {f : Field}

/-- A key that is none of the fields fills no slot. -/
theorem fill_cons_of_not_mem {key : String} : {σ β : Type} → {fields : Fields σ β} → {b : β} →
    {fs : List Field} → fields.Describes depth b fs → (∀ f ∈ fs, f.key ≠ key) →
    fields.fill (key :: seen) b = fields.fill seen b
  | _, _, .done, _, _, _, _ => rfl
  | _, _, .required key' _ rest, (a, b), f :: fs, h, other => by
    rw [List.forall_mem_cons] at other
    obtain ⟨rfl, -, -, h⟩ := h
    rw [fill, fill, fill_cons_of_not_mem h other.2]
    simp only [List.mem_cons, other.1, false_or]
  | _, _, .defaulted key' _ _ rest, (a, b), f :: fs, h, other => by
    rw [List.forall_mem_cons] at other
    obtain ⟨rfl, -, -, h⟩ := h
    rw [fill, fill, fill_cons_of_not_mem h other.2]
    simp only [List.mem_cons, other.1, false_or]

/-- All fields have their values when those that have not been read may be left out. -/
theorem finish_fill : {σ β : Type} → {fields : Fields σ β} → {b : β} → {fs : List Field} →
    fields.Describes depth b fs → (∀ f ∈ fs, f.key ∉ seen → f.mayLack) →
    fields.finish (fields.fill seen b) = .ok b
  | _, _, .done, (), _, _, _ => rfl
  | _, _, .required key' _ rest, (a, b), f :: fs, h, lacking => by
    rw [List.forall_mem_cons] at lacking
    obtain ⟨rfl, required, -, h⟩ := h
    have read : f.key ∈ seen := by
      by_contra unread
      exact required (lacking.1 unread)
    rw [fill, if_pos read, finish, finish_fill h lacking.2]
    rfl
  | _, _, .defaulted key' _ _ rest, (a, b), f :: fs, h, lacking => by
    rw [List.forall_mem_cons] at lacking
    obtain ⟨rfl, default, -, h⟩ := h
    rw [fill, finish, finish_fill h lacking.2]
    split
    · rfl
    · rw [default (lacking.1 ‹_›)]
      rfl

/-! ## Members -/

theorem readMember?_unknown {key : String} (bound room : Nat) (cs : List Char) :
    {σ β : Type} → {fields : Fields σ β} → {b : β} → {fs : List Field} →
    fields.Describes depth b fs → (∀ f ∈ fs, f.key ≠ key) → (slots : σ) →
    fields.readMember? bound room key slots cs = none
  | _, _, .done, _, _, _, _, _ => rfl
  | _, _, .required key' _ rest, (a, b), f :: fs, h, other, (slot, slots) => by
    rw [List.forall_mem_cons] at other
    obtain ⟨rfl, -, -, h⟩ := h
    rw [readMember?, if_neg other.1.symm, readMember?_unknown bound room cs h other.2]
    rfl
  | _, _, .defaulted key' _ _ rest, (a, b), f :: fs, h, other, (slot, slots) => by
    rw [List.forall_mem_cons] at other
    obtain ⟨rfl, -, -, h⟩ := h
    rw [readMember?, if_neg other.1.symm, readMember?_unknown bound room cs h other.2]
    rfl

theorem readField_none {shape : Shape α} {a : α} {P : List Char → Prop} (h : shape.Reads depth a P)
    {bound room : Nat} (hs : Spaces s) (hs' : Spaces s') (hv : P v) (length : v.length ≤ bound)
    (hroom : depth ≤ room) (hrest : Ends rest) (key : String) :
    readField key (shape.read bound room) none (s ++ ':' :: (s' ++ (v ++ rest))) =
      .ok (a, rest) := by
  rw [readField, readColon_append hs]
  exact h.read bound room s' v rest hs' hv length hroom hrest

/-- The member of a field that has not been read fills its slot. -/
theorem readMember?_known {bound room : Nat} (hs : Spaces s) (hs' : Spaces s') (hv : f.value v)
    (length : v.length ≤ bound) (hroom : depth ≤ room) (hrest : Ends rest)
    (unread : f.key ∉ seen) : {σ β : Type} → {fields : Fields σ β} → {b : β} → {fs : List Field} →
    fields.Describes depth b fs → (fs.map Field.key).Nodup → f ∈ fs →
    fields.readMember? bound room f.key (fields.fill seen b) (s ++ ':' :: (s' ++ (v ++ rest))) =
      some (.ok (fields.fill (f.key :: seen) b, rest))
  | _, _, .required key' _ rest', (a, b), g :: fs, h, nodup, hf => by
    obtain ⟨rfl, -, reads, h⟩ := h
    rw [List.map_cons, List.nodup_cons] at nodup
    have others : ∀ f ∈ fs, f.key ≠ g.key := fun f hf same =>
      nodup.1 (same ▸ List.mem_map_of_mem hf)
    rcases List.mem_cons.mp hf with rfl | hf
    · rw [fill, fill, readMember?, if_pos rfl, if_neg unread, if_pos List.mem_cons_self,
        fill_cons_of_not_mem h others, readField_none reads hs hs' hv length hroom hrest]
      rfl
    · have other := others f hf
      rw [fill, fill, readMember?, if_neg other,
        readMember?_known hs hs' hv length hroom hrest unread h nodup.2 hf]
      simp only [Option.map_some, Except.map, List.mem_cons, other.symm, false_or]
  | _, _, .defaulted key' _ _ rest', (a, b), g :: fs, h, nodup, hf => by
    obtain ⟨rfl, -, reads, h⟩ := h
    rw [List.map_cons, List.nodup_cons] at nodup
    have others : ∀ f ∈ fs, f.key ≠ g.key := fun f hf same =>
      nodup.1 (same ▸ List.mem_map_of_mem hf)
    rcases List.mem_cons.mp hf with rfl | hf
    · rw [fill, fill, readMember?, if_pos rfl, if_neg unread, if_pos List.mem_cons_self,
        fill_cons_of_not_mem h others, readField_none reads hs hs' hv length hroom hrest]
      rfl
    · have other := others f hf
      rw [fill, fill, readMember?, if_neg other,
        readMember?_known hs hs' hv length hroom hrest unread h nodup.2 hf]
      simp only [Option.map_some, Except.map, List.mem_cons, other.symm, false_or]
  | _, _, .done, _, [], _, _, hf => nomatch hf

end Fields

/-! ## Members of a record -/

section Members

variable {σ β : Type} {fields : Fields σ β} {b : β} {fs : List Field} {depth bound room : Nat}
  {seen : List String}

/-- The member is read wherever it stands, and those fields are read then whose keys are in
`seen'`. -/
def ReadsMember (fields : Fields σ β) (b : β) (bound room : Nat) (seen seen' : List String)
    (m : List Char) : Prop :=
  ∃ t k s, Spaces t ∧ Spaces s ∧ m = t ++ '"' :: (k ++ s) ∧ ∀ tail, Ends tail →
    ∀ fuel first text, nextKey? first text = .ok (some (k ++ (s ++ tail))) →
      readMembers bound (fields.readMember? bound room) (fuel + 1) first (fields.fill seen b) text =
        readMembers bound (fields.readMember? bound room) fuel false (fields.fill seen' b)
          (s ++ tail)

namespace RecordLemmas

/-- A field is read that has not been read before. -/
theorem readsMember_known (h : fields.Describes depth b fs) (nodup : (fs.map Field.key).Nodup)
    (hroom : depth ≤ room) {f : Field} (hf : f ∈ fs) (unread : f.key ∉ seen) (hv : f.value v)
    (hm : Keyed (Quoted f.key) v m) (length : m.length ≤ bound) :
    ReadsMember fields b bound room seen (f.key :: seen) m := by
  obtain ⟨t, _, t', _, ht, ⟨k, hk, rfl⟩, ht', ⟨p, p', hp, hp', rfl⟩, rfl⟩ := hm
  simp only [List.length_append, List.length_cons] at length
  refine ⟨t, k ++ '"' :: (t' ++ ':' :: (p ++ v)), p', ht, hp', by simp, ?_⟩
  intro tail hrest fuel first text next
  have short : v.length ≤ bound := by omega
  have value := Fields.readMember?_known ht' hp hv short hroom (hp'.ends hrest) unread h nodup hf
  have key := readText_spelled hk (t' ++ ':' :: (p ++ (v ++ (p' ++ tail))))
  simp only [List.append_assoc, List.cons_append] at next
  simp only [readMembers, next, key, String.ofList_toList, value, bind, Except.bind]

/-- What stands under another key is passed over. -/
theorem readsMember_unknown {key : String} (h : fields.Describes depth b fs)
    (other : ∀ f ∈ fs, f.key ≠ key) (hv : Value v) (hm : Keyed (Quoted key) v m)
    (length : m.length ≤ bound) : ReadsMember fields b bound room seen seen m := by
  obtain ⟨t, _, t', _, ht, ⟨k, hk, rfl⟩, ht', ⟨p, p', hp, hp', rfl⟩, rfl⟩ := hm
  simp only [List.length_append, List.length_cons] at length
  refine ⟨t, k ++ '"' :: (t' ++ ':' :: (p ++ v)), p', ht, hp', by simp, ?_⟩
  intro tail hrest fuel first text next
  have unknown (cs : List Char) :=
    Fields.readMember?_unknown bound room cs h other (fields.fill seen b)
  have short : v.length ≤ bound := by omega
  have value := skipValue_append hv hp (hp'.ends hrest) short
  have key := readText_spelled hk (t' ++ ':' :: (p ++ (v ++ (p' ++ tail))))
  simp only [List.append_assoc, List.cons_append] at next
  simp only [readMembers, next, key, String.ofList_toList, unknown, readColon_append ht', value,
    bind, Except.bind]

theorem readsMember_of_members (h : fields.Describes depth b fs)
    (nodup : (fs.map Field.key).Nodup) (hroom : depth ≤ room) (hms : Members fs seen (m :: ms))
    (length : m.length ≤ bound) :
    ∃ seen', ReadsMember fields b bound room seen seen' m ∧ Members fs seen' ms := by
  cases hms with
  | known hf unread hv hm hms =>
    exact ⟨_, readsMember_known h nodup hroom hf unread hv hm length, hms⟩
  | unknown other hv hm hms => exact ⟨seen, readsMember_unknown h other hv hm length, hms⟩

/-- The members that remain fill the slots of all fields but those that may be left out. -/
theorem readMembers_remains (h : fields.Describes depth b fs) (nodup : (fs.map Field.key).Nodup)
    (hroom : depth ≤ room) (hms : Members fs seen ms) (length : ∀ m ∈ ms, m.length ≤ bound)
    (left : Remains '\x7d' rest first ms text) {fuel : Nat} (hfuel : ms.length < fuel) :
    ∃ slots text', readMembers bound (fields.readMember? bound room) fuel first (fields.fill seen b)
        text = .ok (slots, text') ∧
      fields.finish slots = .ok b ∧ readClosing '\x7d' text' = .ok rest := by
  -- The invariant is that the slots are those of the fields in `seen`; each member adds a key to it
  -- or, if it is not known, none.
  induction ms generalizing seen first text fuel with
  | nil =>
    obtain _ | fuel := fuel
    · exact absurd hfuel (Nat.not_lt_zero _)
    cases hms with
    | done lacking =>
      obtain ⟨s, hs, rfl⟩ := left.finished
      refine ⟨fields.fill seen b, s ++ '\x7d' :: rest, ?_, Fields.finish_fill h lacking,
        left.closes rfl⟩
      simp [readMembers, nextKey?_end hs first rest, bind, Except.bind]
  | cons m ms ih =>
    obtain _ | fuel := fuel
    · exact absurd hfuel (Nat.not_lt_zero _)
    rw [List.forall_mem_cons] at length
    obtain ⟨seen', ⟨t, k, t', ht, ht', rfl, reads⟩, later⟩ :=
      readsMember_of_members h nodup hroom hms length.1
    have next : nextKey? first text =
        .ok (some (k ++ (t' ++ (ms.flatMap (',' :: ·) ++ '\x7d' :: rest)))) := by
      cases left with
      | first =>
        rw [← nextKey?_first ht]
        simp
      | more _ hs =>
        rw [← nextKey?_more hs ht]
        simp
    rw [reads _ (ends_items (by decide) ms rest) fuel first text next]
    exact ih later length.2 (.more ms ht') (Nat.lt_of_succ_lt_succ hfuel)

end RecordLemmas

end Members

/-! ## Items of a record -/

namespace RecordLemmas

variable {depth bound room : Nat}

/-- Items are read into the fields that they stand for, and the fields that the list ends before
have their defaults. -/
theorem readItems_remains (name : String) (size : Nat) (hroom : depth ≤ room) :
    {σ β : Type} → (fields : Fields σ β) → ∀ (index : Nat) {b : β} {kept dropped : List Field}
      {is : List (List Char)} {text : List Char}, fields.Describes depth b (kept ++ dropped) →
      (∀ f ∈ dropped, f.mayLack) →
      List.Forall₂ (fun f i => ∃ v, f.value v ∧ Pads v i) kept is →
      (∀ i ∈ is, i.length ≤ bound) → Remains ']' rest (index == 0) is text →
      ∃ text', fields.readItems bound room name size index text = .ok (b, text') ∧
        readClosing ']' text' = .ok rest
  | _, _, .done, index, (), kept, dropped, is, text, h, _, his, _, left => by
    cases kept with
    | nil =>
      cases his
      exact ⟨text, rfl, left.closes rfl⟩
    | cons f kept => exact h.elim
  | _, _, .required key shape fields, index, (a, b), kept, dropped, is, text, h, lacking, his,
      length, left => by
    cases kept with
    | nil =>
      cases dropped with
      | nil => exact h.elim
      | cons f dropped => exact absurd (lacking f List.mem_cons_self) h.2.1
    | cons f kept =>
      obtain ⟨-, -, reads, h⟩ := h
      cases his with
      | cons hi his =>
        rw [List.forall_mem_cons] at length
        obtain ⟨next, text', found, value, left⟩ :=
          left.next_item (readsItem_of_reads reads hi length.1 hroom)
        obtain ⟨text'', more, closes⟩ :=
          readItems_remains name size hroom fields (index + 1) h lacking his length.2 left
        exact ⟨text'', by simp [Fields.readItems, found, value, more, bind, Except.bind], closes⟩
  | _, _, .defaulted key shape value fields, index, (a, b), kept, dropped, is, text, h, lacking,
      his, length, left => by
    cases kept with
    | nil =>
      cases dropped with
      | nil => exact h.elim
      | cons f dropped =>
        obtain ⟨-, default, -, h⟩ := h
        rw [List.forall_mem_cons] at lacking
        -- The list has ended, and it ends again before each of the fields that are left.
        cases his
        have h : fields.Describes depth b ([] ++ dropped) := h
        obtain ⟨text', more, closes⟩ :=
          readItems_remains name size hroom fields (index + 1) h lacking.2 .nil length left.again
        refine ⟨text', ?_, closes⟩
        simp [Fields.readItems, left.none_next, more, default lacking.1, bind, Except.bind]
    | cons f kept =>
      obtain ⟨-, -, reads, h⟩ := h
      cases his with
      | cons hi his =>
        rw [List.forall_mem_cons] at length
        obtain ⟨next, text', found, value, left⟩ :=
          left.next_item (readsItem_of_reads reads hi length.1 hroom)
        obtain ⟨text'', more, closes⟩ :=
          readItems_remains name size hroom fields (index + 1) h lacking his length.2 left
        exact ⟨text'', by simp [Fields.readItems, found, value, more, bind, Except.bind], closes⟩

end RecordLemmas

/-! ## Records -/

theorem head?_of_recorded {fs : List Field} (hv : Recorded fs v) :
    v.head? = some '[' ∨ v.head? = some '\x7b' := by
  cases hv with
  | record _ h => cases h <;> exact .inr rfl
  | list _ _ h =>
    obtain ⟨_, -, h⟩ := h
    cases h <;> exact .inl rfl

/-- A record is read, from whichever of its notations, if its fields are. -/
theorem reads_record {σ β : Type} {fields : Fields σ β} {b : β} {fs : List Field} {depth : Nat}
    (h : fields.Describes depth b fs) (nodup : (fs.map Field.key).Nodup) (name : String)
    (make : β → α) : (Shape.record name fields make).Reads (depth + 1) (make b) (Recorded fs) where
  opens v hv := by
    cases hv with
    | record _ h => exact opens_of_enclosed h rfl (by decide)
    | list _ _ h =>
      obtain ⟨_, -, h⟩ := h
      exact opens_of_enclosed h rfl (by decide)
  read bound room s v rest hs hv length hroom _ := by
    obtain _ | room := room
    · exact absurd hroom (Nat.not_succ_le_zero depth)
    cases hv with
    | record hms hv =>
      obtain ⟨count, short⟩ := lengths_of_enclosed hv
      obtain ⟨text, begins, left⟩ := remains_of_enclosed hv rest
      obtain ⟨slots, text', read, finish, closes⟩ := readMembers_remains h nodup
        (Nat.le_of_succ_le_succ hroom) hms (fun m hm => Nat.le_trans (short m hm) length) left
        (Nat.lt_succ_of_lt (Nat.lt_of_lt_of_le count length))
      rw [Fields.fill_nil] at read
      rw [begins, Shape.read, readNested, skipSpace_append hs (starts_cons rfl _)]
      simp [read, finish, closes, bind, Except.bind]
    | list split lacking hv =>
      subst split
      obtain ⟨is, his, hv⟩ := hv
      obtain ⟨text, begins, left⟩ := remains_of_enclosed hv rest
      have short (i : List Char) (hi : i ∈ is) : i.length ≤ bound :=
        Nat.le_trans ((lengths_of_enclosed hv).2 i hi) length
      obtain ⟨text', read, closes⟩ := readItems_remains name fields.size
        (Nat.le_of_succ_le_succ hroom) fields 0 h lacking his short left
      rw [begins, Shape.read, readNested, skipSpace_append hs (starts_cons rfl _)]
      simp [read, closes, Except.map, bind, Except.bind]

end Plant.Json
