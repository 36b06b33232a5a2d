import Mathlib.Data.List.Chain
import Plant.Lua.Operations
import Plant.Proofs.Number.Numeral
import Plant.Proofs.Text.Blank

/-!
# Values in generated code

Which parameters are written, and what their values look like. Whatever text a parameter holds, its
written value stays on its line, and no equals sign in it stands behind a space.

Results:
1. `assignment?_eq_none_iff`: the parameters that are not written.
2. `inert_of_value?`: what a written value never contains.
-/
namespace Plant

/-- The parameter is written: it has a name, is not disabled and holds more than blanks. -/
structure Parameter.Written (p : Parameter) : Prop where
  named : p.luaName ≠ ""
  enabled : p.disabled = false
  visible : ∃ c ∈ p.value.toList, Text.isBlank c = false

theorem Parameter.value_of_isBool {p : Parameter} (h : p.kind.isBool = true) :
    p.value = "true" ∨ p.value = "false" := by
  have taken := p.take_value
  rw [ParameterKind.take, if_pos h] at taken
  split at taken
  · exact .inl taken.symm
  · exact .inr taken.symm

namespace Lua

/-- A text on one line without an equals sign behind a space, also if a space is put before it. -/
structure Inert (cs : List Char) : Prop where
  line : '\n' ∉ cs
  chain : (' ' :: cs).IsChain fun c d => c = ' ' → d ≠ '='

theorem inert_nil : Inert [] := ⟨by decide, .singleton _⟩

theorem Inert.append {as bs : List Char} (ha : Inert as) (hb : Inert bs) : Inert (as ++ bs) where
  line h := (List.mem_append.mp h).elim ha.line hb.line
  chain := by
    have later := List.isChain_cons.mp hb.chain
    rw [← List.cons_append]
    exact List.isChain_append.mpr ⟨ha.chain, later.2, fun _ _ d hd _ => later.1 d hd rfl⟩

theorem inert_of_visible {cs : List Char} (hcs : ∀ c ∈ cs, Text.isBlank c = false)
    (hhead : cs.head? ≠ some '=') : Inert cs where
  line h := by cases hcs _ h
  chain := by
    refine List.isChain_cons.mpr ⟨fun c hc _ equals => hhead (equals ▸ hc), ?_⟩
    refine List.Pairwise.isChain (List.pairwise_of_forall_mem_list ?_)
    rintro c hc - - rfl
    cases hcs _ hc

namespace ValueLemmas

/-! ## Parameters that are written -/

theorem exists_visible_iff (s : String) :
    (∃ c ∈ s.toList, Text.isBlank c = false) ↔ Text.words s ≠ [] := by
  rw [Ne, Text.words_eq_nil_iff]
  simp

theorem devices?_eq_none_iff (names : List String) : devices? names = none ↔ names = [] := by
  rcases names with _ | ⟨name, _ | ⟨_, _⟩⟩ <;> simp [devices?]

/-- The characters of a value that is a number are those of a numeral, of which there are some. -/
theorem numeric_of_isNumber {s : String} (h : isNumber s = true) :
    (Text.trim s).toList ≠ [] ∧ ∀ c ∈ (Text.trim s).toList, Number.Numeric c := by
  rw [isNumber, Number.isFiniteNumeral, Option.any_eq_true] at h
  obtain ⟨n, hn, -⟩ := h
  exact ⟨Number.Numeral.ne_nil_of_read? hn, Number.Numeral.numeric_of_read? hn⟩

theorem words_ne_nil_of_isNumber {s : String} (h : isNumber s = true) : Text.words s ≠ [] := by
  obtain ⟨nonempty, numeric⟩ := numeric_of_isNumber h
  obtain ⟨c, hc⟩ := List.exists_mem_of_ne_nil _ nonempty
  exact (exists_visible_iff s).mp ⟨c, Text.mem_of_mem_trim hc, (numeric c hc).isBlank_eq⟩

theorem words_ne_nil_of_isBool {p : Parameter} (h : p.kind.isBool = true) :
    Text.words p.value ≠ [] := by
  rcases Parameter.value_of_isBool h with h | h <;> rw [h] <;> decide

/-- There is a value as soon as there is a word, of whatever kind the parameter is. -/
theorem value?_eq_none_iff (p : Parameter) : value? p = none ↔ Text.words p.value = [] := by
  unfold value?
  split
  case h_1 => exact devices?_eq_none_iff _
  case h_2 =>
    split
    · rename_i number
      exact iff_of_false (Option.some_ne_none _) (words_ne_nil_of_isNumber number)
    · exact devices?_eq_none_iff _
  case h_3 kind | h_4 kind =>
    exact iff_of_false (Option.some_ne_none _) (words_ne_nil_of_isBool (by rw [kind]; rfl))

/-! ## Inert texts -/

theorem inert_device {name : String} (hname : ∀ c ∈ name.toList, Text.isBlank c = false) :
    Inert (device name).toList := by
  have field : ("prg.control_modules.".toList.all fun c => !Text.isBlank c) = true := by decide
  simp only [List.all_eq_true, Bool.not_eq_true'] at field
  have head : "prg.control_modules.".toList.head? = some 'p' := by decide
  unfold device
  rw [String.toList_append]
  refine inert_of_visible (List.forall_mem_append.mpr ⟨field, hname⟩) ?_
  rw [List.head?_append, head]
  simp

theorem inert_intercalate {separator : String} (hs : Inert separator.toList) {ss : List String}
    (hss : ∀ s ∈ ss, Inert s.toList) : Inert (separator.intercalate ss).toList := by
  induction ss with
  | nil => exact inert_nil
  | cons s ss ih =>
    rw [List.forall_mem_cons] at hss
    cases ss with
    | nil =>
      rw [String.intercalate_singleton]
      exact hss.1
    | cons t ss =>
      rw [String.intercalate_cons_cons, String.toList_append, String.toList_append]
      exact (hss.1.append hs).append (ih hss.2)

theorem inert_devices? {names : List String} {v : String}
    (hnames : ∀ name ∈ names, ∀ c ∈ name.toList, Text.isBlank c = false)
    (h : devices? names = some v) : Inert v.toList := by
  unfold devices? at h
  split at h
  case h_1 => cases h
  case h_2 name =>
    cases h
    exact inert_device (hnames name (List.mem_singleton_self name))
  case h_3 =>
    cases h
    have opening : Inert "\x7b ".toList := ⟨by decide, by decide⟩
    have closing : Inert " \x7d".toList := ⟨by decide, by decide⟩
    have separator : Inert ", ".toList := ⟨by decide, by decide⟩
    rw [String.toList_append, String.toList_append]
    refine (opening.append (inert_intercalate separator fun s hs => ?_)).append closing
    obtain ⟨name, hname, rfl⟩ := List.mem_map.mp hs
    exact inert_device (hnames name hname)

theorem inert_of_isNumber {s : String} (h : isNumber s = true) : Inert (Text.trim s).toList := by
  obtain ⟨-, numeric⟩ := numeric_of_isNumber h
  refine inert_of_visible (fun c hc => (numeric c hc).isBlank_eq) fun head => ?_
  exact (numeric _ (List.mem_of_head? head)).ne_equals rfl

theorem inert_of_isBool {p : Parameter} (h : p.kind.isBool = true) : Inert p.value.toList := by
  rcases Parameter.value_of_isBool h with h | h <;> rw [h] <;> exact ⟨by decide, by decide⟩

end ValueLemmas

open ValueLemmas

/-- Nothing is written for a parameter exactly if it lacks a name, is disabled or holds only
blanks. -/
theorem assignment?_eq_none_iff (p : Parameter) : assignment? p = none ↔ ¬ p.Written := by
  have visible : value? p ≠ none ↔ ∃ c ∈ p.value.toList, Text.isBlank c = false := by
    rw [Ne, value?_eq_none_iff, exists_visible_iff]
  have nonempty : p.value = "" → value? p = none := by
    intro h
    rw [value?_eq_none_iff, h]
    rfl
  rw [assignment?]
  split
  case isTrue h =>
    simp only [Bool.or_eq_true, String.isEmpty_iff] at h
    refine iff_of_true rfl fun w => ?_
    rcases h with (h | h) | h
    · exact w.named (String.isEmpty_iff.mp h)
    · rw [w.enabled] at h
      cases h
    · exact visible.mpr w.visible (nonempty h)
  case isFalse h =>
    simp only [Bool.or_eq_true, not_or, Bool.not_eq_true] at h
    rw [Option.map_eq_none_iff]
    constructor
    · intro none w
      exact visible.mpr w.visible none
    · intro w
      by_contra some
      exact w ⟨fun named => by simp [Parameter.isEmpty, named] at h, h.1.2, visible.mp some⟩

/-- The written value of a parameter is inert, whatever text the parameter holds. -/
theorem inert_of_value? {p : Parameter} {v : String} (h : value? p = some v) : Inert v.toList := by
  have words : ∀ name ∈ Text.words p.value, ∀ c ∈ name.toList, Text.isBlank c = false :=
    fun _ hname _ => Text.isBlank_of_mem_words hname
  unfold value? at h
  split at h
  case h_1 => exact inert_devices? words h
  case h_2 =>
    split at h
    case isTrue number =>
      cases h
      exact inert_of_isNumber number
    case isFalse => exact inert_devices? words h
  case h_3 kind | h_4 kind =>
    cases h
    exact inert_of_isBool (by rw [kind]; rfl)

end Lua

end Plant
