import Mathlib.Data.List.Induction
import Plant.Lua.Assignment

/-!
# The past of a parameter

A parameter is made of a text and is assigned others later. What it holds is told by the text that
was assigned last, and its default value by the text that it was made of. The kinds that are true or
false hold nothing else, and are written as that; the others hold the texts as they are.

Results:
1. `Past.reflects_parameter`: what a past says of the parameter that it leads to.
2. `Traces.edit`, `Traces.hold`: a parameter goes on with its past when it is changed or becomes
   part of another object.
3. `Traces.holds`: what a parameter holds, and how it is written.
-/
namespace Plant.Parameter

/-! ## Definitions -/

/-- What a parameter was made of, and what was changed since. -/
structure Past where
  kind : ParameterKind
  luaName : String
  name : String
  /-- The text that it was made of. -/
  text : String
  edits : List Edit
deriving DecidableEq, Repr

namespace Past

/-- The past of a parameter that has just been made. -/
def made (kind : ParameterKind) (luaName name text : String) : Past :=
  { kind, luaName, name, text, edits := [] }

/-- A past that leads to a parameter of which nothing else is known. -/
def ofParameter (p : Parameter) : Past :=
  { kind := p.kind, luaName := p.luaName, name := p.name, text := p.defaultValue,
    edits := [{ text := some p.value, disabled := some p.disabled }] }

/-- The past with one more change. -/
def andThen (past : Past) (e : Edit) : Past := { past with edits := past.edits ++ [e] }

/-- The text that was assigned last; if there was none, the one that the parameter was made of. -/
def lastText (past : Past) : String := (past.edits.filterMap Edit.text).getLastD past.text

/-- Tells whether the parameter was disabled last; at first it is not. -/
def isDisabled (past : Past) : Bool := (past.edits.filterMap Edit.disabled).getLastD false

/-- The parameter that the past leads to, which is not part of an object. -/
def parameter (past : Past) : Parameter :=
  past.edits.foldl (fun p e => p.edit e) (new past.kind past.luaName past.name past.text)

end Past

/-- The text means true: it is one of these, up to letter case and blanks around it. -/
def SaysTrue (text : String) : Prop :=
  Text.lower (Text.trim text) ∈ ["true", "1", "yes", "да"]

instance (text : String) : Decidable (SaysTrue text) :=
  inferInstanceAs (Decidable (Text.lower (Text.trim text) ∈ ["true", "1", "yes", "да"]))

/-- The parameter is true or false, as the text says that was assigned last, and its default value
as the text says that it was made of. It is written as what it is, if it is enabled and has a
name. -/
structure IsBoolean (past : Past) (p : Parameter) : Prop where
  value_mem : p.value ∈ ["true", "false"]
  defaultValue_mem : p.defaultValue ∈ ["true", "false"]
  value : p.value = "true" ↔ SaysTrue past.lastText
  defaultValue : p.defaultValue = "true" ↔ SaysTrue past.text
  written : ∀ indent, Lua.assignmentText indent p =
    if p.disabled = true ∨ p.luaName = "" then "" else indent ++ p.luaName ++ " = " ++ p.value

/-- The parameter is what its past says. -/
structure Holds (past : Past) (p : Parameter) : Prop where
  kind : p.kind = past.kind
  luaName : p.luaName = past.luaName
  name : p.name = past.name
  disabled : p.disabled = past.isDisabled
  boolean : p.kind = .activeBool ∨ p.kind = .mainAggregate → IsBoolean past p
  verbatim : p.kind = .equipment ∨ p.kind = .active →
    p.value = past.lastText ∧ p.defaultValue = past.text

/-! ## What a past says -/

/-- What the past leads to has the values that its kind takes from the texts. -/
structure Reflects (past : Past) (p : Parameter) : Prop where
  kind : p.kind = past.kind
  luaName : p.luaName = past.luaName
  name : p.name = past.name
  value : p.value = past.kind.take past.lastText
  defaultValue : p.defaultValue = past.kind.take past.text
  disabled : p.disabled = past.isDisabled

namespace Past

theorem parameter_andThen (past : Past) (e : Edit) :
    (past.andThen e).parameter = past.parameter.edit e :=
  List.foldl_append

/-- What a change says counts, and if it says nothing, what those before it said. -/
theorem getLastD_filterMap_concat {α : Type} (f : Edit → Option α) (first : α) (edits : List Edit)
    (e : Edit) : ((edits ++ [e]).filterMap f).getLastD first =
      (f e).getD ((edits.filterMap f).getLastD first) := by
  rw [List.filterMap_append]
  cases he : f e with
  | none =>
    rw [List.filterMap_cons_none he, List.filterMap_nil, List.append_nil]
    rfl
  | some a =>
    rw [List.filterMap_cons_some he, List.filterMap_nil]
    exact List.getLastD_concat

/-- A parameter leads to itself, but for the object that it is part of. -/
theorem parameter_ofParameter (p : Parameter) : (ofParameter p).parameter = p.hold none := by
  simp only [parameter, ofParameter, List.foldl_cons, List.foldl_nil, edit, Option.elim_some, new,
    setValue, setDisabled, hold, p.take_value, p.take_defaultValue]

end Past

theorem Reflects.edit {past : Past} {p : Parameter} (h : Reflects past p) (e : Edit) :
    Reflects (past.andThen e) (p.edit e) := by
  have text : (past.andThen e).lastText = e.text.getD past.lastText := Past.getLastD_filterMap_concat ..
  have disabled : (past.andThen e).isDisabled = e.disabled.getD past.isDisabled :=
    Past.getLastD_filterMap_concat ..
  rcases e with ⟨_ | t, _ | d⟩
  all_goals
    refine ⟨h.kind, h.luaName, h.name, ?_, h.defaultValue, ?_⟩
    · rw [text]
      first | exact h.value | exact congrArg (ParameterKind.take · t) h.kind
    · rw [disabled]
      first | exact h.disabled | rfl

/-- The induction goes over the changes from the last one on: what is assigned last counts. -/
theorem Past.reflects_parameter (past : Past) : Reflects past past.parameter := by
  obtain ⟨kind, luaName, name, text, edits⟩ := past
  induction edits using List.reverseRecOn with
  | nil => exact ⟨rfl, rfl, rfl, rfl, rfl, rfl⟩
  | append_singleton edits e ih =>
    have step := ih.edit e
    rwa [← Past.parameter_andThen] at step

/-! ## True or false -/

/-- What the kinds that are true or false take from a text. -/
theorem take_bool {kind : ParameterKind} (bool : kind.isBool = true) (text : String) :
    kind.take text ∈ ["true", "false"] ∧ (kind.take text = "true" ↔ SaysTrue text) := by
  have means : ParameterKind.meansTrue text = true ↔ SaysTrue text := List.contains_iff_mem
  rw [ParameterKind.take, if_pos bool]
  split
  case isTrue yes => exact ⟨by decide, iff_of_true rfl (means.mp yes)⟩
  case isFalse no => exact ⟨by decide, iff_of_false (by decide) fun meant => no (means.mpr meant)⟩

theorem assignmentText_of_bool {p : Parameter}
    (bool : p.kind = .activeBool ∨ p.kind = .mainAggregate) (value : p.value ∈ ["true", "false"])
    (indent : String) : Lua.assignmentText indent p =
      if p.disabled = true ∨ p.luaName = "" then ""
      else indent ++ p.luaName ++ " = " ++ p.value := by
  have shown : Lua.value? p = some p.value := by
    rcases bool with kind | kind <;> rw [Lua.value?, kind]
  have full : p.value.isEmpty = false := by
    simp only [List.mem_cons, List.not_mem_nil, or_false] at value
    rcases value with yes | no
    · rw [yes]; decide
    · rw [no]; decide
  rw [Lua.assignmentText, Lua.assignment?, shown, full]
  by_cases silent : p.disabled = true ∨ p.luaName = ""
  · rw [if_pos silent, if_pos]
    · rfl
    · simpa [isEmpty, or_comm] using silent
  · rw [if_neg silent, if_neg]
    · simp [String.append_assoc]
    · simpa [isEmpty, and_comm] using silent

/-! ## Parameters with a past -/

/-- The parameter is the one that the past leads to, whatever object it is part of. -/
structure Traces (past : Past) (p : Parameter) : Prop where
  hold_eq : p.hold none = past.parameter

namespace Traces

variable {past : Past} {p : Parameter}

theorem made (kind : ParameterKind) (luaName name text : String) :
    Traces (.made kind luaName name text) (new kind luaName name text) :=
  ⟨rfl⟩

theorem ofParameter (p : Parameter) : Traces (.ofParameter p) p :=
  ⟨(Past.parameter_ofParameter p).symm⟩

theorem hold (h : Traces past p) (holder : Option Handle) : Traces past (p.hold holder) :=
  ⟨h.hold_eq⟩

theorem edit (h : Traces past p) (e : Edit) : Traces (past.andThen e) (p.edit e) := by
  constructor
  rw [Past.parameter_andThen, ← h.hold_eq]
  rcases e with ⟨_ | text, _ | disabled⟩ <;> rfl

theorem parameter (past : Past) : Traces past past.parameter := by
  obtain ⟨kind, luaName, name, text, edits⟩ := past
  induction edits using List.reverseRecOn with
  | nil => exact made kind luaName name text
  | append_singleton edits e ih =>
    have step := ih.edit e
    rwa [← Past.parameter_andThen] at step

theorem reflects (h : Traces past p) : Reflects past p := by
  have led := past.reflects_parameter
  rw [← h.hold_eq] at led
  exact { led with }

theorem luaName (h : Traces past p) : past.luaName = p.luaName := h.reflects.luaName.symm

/-- What a parameter that is true or false holds, and how it is written. -/
theorem isBoolean (h : Traces past p) (bool : p.kind = .activeBool ∨ p.kind = .mainAggregate) :
    IsBoolean past p := by
  have taken := h.reflects
  have isBool : past.kind.isBool = true := by
    rw [← taken.kind]
    rcases bool with kind | kind <;> rw [kind] <;> rfl
  have value := take_bool isBool past.lastText
  have defaultValue := take_bool isBool past.text
  rw [← taken.value] at value
  rw [← taken.defaultValue] at defaultValue
  exact ⟨value.1, defaultValue.1, value.2, defaultValue.2, assignmentText_of_bool bool value.1⟩

theorem holds (h : Traces past p) : Holds past p := by
  have taken := h.reflects
  refine ⟨taken.kind, taken.luaName, taken.name, taken.disabled, h.isBoolean, fun other => ?_⟩
  have value := taken.value
  have defaultValue := taken.defaultValue
  rw [← taken.kind] at value defaultValue
  rcases other with kind | kind
  all_goals
    rw [kind] at value defaultValue
    exact ⟨value, defaultValue⟩

end Traces

end Plant.Parameter
