import Plant.Proofs.Number.Numeral
import Plant.Registry

/-!
# Names of registered objects

Generated code refers to a registered object by its name in lower case with its number right behind
it, so a name that ends in digits can take digits from the number of another object. This is the
only way in which different objects come to the same name.

Results:
1. `decimal_inj`: different numbers have different decimal texts.
2. `exists_of_append_eq_append`: where two texts may be cut differently.
3. `qualifiedName_exact`: which objects have the same name in generated code.
-/
namespace Plant

/-- The name of the object is that of the other one with digits behind it, and the number of the
other one is written as these digits followed by the number of the object. -/
def Registered.Borrows (a b : Registered) : Prop :=
  ∃ digits : String, digits ≠ "" ∧ (∀ c ∈ digits.toList, c.isDigit = true) ∧
    Text.lower a.eplanName = Text.lower b.eplanName ++ digits ∧
    Number.decimal b.number.toNat = digits ++ Number.decimal a.number.toNat

/-- The last character of the text is a digit. -/
def EndsInDigit (s : String) : Prop := ∃ c ∈ s.toList.getLast?, c.isDigit = true

namespace RegistryLemmas

open Number

theorem decimal_inj {n m : Nat} (h : decimal n = decimal m) : n = m := by
  rw [← ofDigits_decimal n, h, ofDigits_decimal]

/-- If two cuts of one text differ, there is something between them. -/
theorem exists_of_append_eq_append {s t u v : String} (h : s ++ t = u ++ v) :
    (∃ d, u = s ++ d ∧ t = d ++ v) ∨ ∃ d, s = u ++ d ∧ v = d ++ t := by
  have chars : s.toList ++ t.toList = u.toList ++ v.toList := by
    rw [← String.toList_append, h, String.toList_append]
  rcases List.append_eq_append_iff.mp chars with ⟨d, hu, ht⟩ | ⟨d, hs, hv⟩
  · refine .inl ⟨String.ofList d, ?_, ?_⟩ <;> rw [← String.toList_inj] <;> simpa
  · refine .inr ⟨String.ofList d, ?_, ?_⟩ <;> rw [← String.toList_inj] <;> simpa

theorem qualifiedName_eq_iff {a b : Registered} : a.qualifiedName = b.qualifiedName ↔
    Text.lower a.eplanName ++ decimal a.number.toNat =
      Text.lower b.eplanName ++ decimal b.number.toNat := by
  rw [Registered.qualifiedName, Registered.qualifiedName, String.append_right_inj]
  rfl

/-- What stands between two cuts belongs to a number, so it has nothing but digits in it. -/
theorem borrows_of_cuts {a b : Registered} {d : String} (nonempty : d ≠ "")
    (name : Text.lower a.eplanName = Text.lower b.eplanName ++ d)
    (number : decimal b.number.toNat = d ++ decimal a.number.toNat) : a.Borrows b := by
  refine ⟨d, nonempty, fun c hc => ?_, name, number⟩
  have digit : c ∈ (decimal b.number.toNat).toList := by
    rw [number, String.toList_append]
    exact List.mem_append_left _ hc
  exact isDigit_of_mem_decimal digit

theorem eq_or_borrows_of_cuts {a b : Registered} {d : String}
    (name : Text.lower a.eplanName = Text.lower b.eplanName ++ d)
    (number : decimal b.number.toNat = d ++ decimal a.number.toNat) :
    (Text.lower a.eplanName = Text.lower b.eplanName ∧ a.number = b.number) ∨ a.Borrows b := by
  by_cases nonempty : d = ""
  · subst nonempty
    rw [String.append_empty] at name
    rw [String.empty_append] at number
    exact .inl ⟨name, UInt32.toNat_inj.mp (decimal_inj number.symm)⟩
  · exact .inr (borrows_of_cuts nonempty name number)

end RegistryLemmas

open RegistryLemmas

namespace Registered

variable {a b : Registered}

theorem Borrows.qualifiedName_eq (h : a.Borrows b) : a.qualifiedName = b.qualifiedName := by
  obtain ⟨d, -, -, name, number⟩ := h
  rw [qualifiedName_eq_iff, name, number, String.append_assoc]

theorem Borrows.lower_ne (h : a.Borrows b) : Text.lower a.eplanName ≠ Text.lower b.eplanName := by
  obtain ⟨d, nonempty, -, name, -⟩ := h
  intro same
  rw [same, ← String.toList_inj, String.toList_append, List.self_eq_append_right] at name
  exact nonempty (String.toList_eq_nil_iff.mp name)

theorem Borrows.endsInDigit (h : a.Borrows b) : EndsInDigit (Text.lower a.eplanName) := by
  obtain ⟨d, nonempty, digits, name, -⟩ := h
  have some : d.toList ≠ [] := fun none => nonempty (String.toList_eq_nil_iff.mp none)
  refine ⟨d.toList.getLast some, ?_, digits _ (List.getLast_mem some)⟩
  rw [name, String.toList_append, List.getLast?_append, List.getLast?_eq_some_getLast some]
  rfl

theorem eq_or_borrows_of_qualifiedName_eq (h : a.qualifiedName = b.qualifiedName) :
    (Text.lower a.eplanName = Text.lower b.eplanName ∧ a.number = b.number) ∨
      a.Borrows b ∨ b.Borrows a := by
  rcases exists_of_append_eq_append (qualifiedName_eq_iff.mp h) with
    ⟨d, name, number⟩ | ⟨d, name, number⟩
  · rcases eq_or_borrows_of_cuts name number with ⟨name, number⟩ | borrows
    · exact .inl ⟨name.symm, number.symm⟩
    · exact .inr (.inr borrows)
  · rcases eq_or_borrows_of_cuts name number with same | borrows
    · exact .inl same
    · exact .inr (.inl borrows)

/-- Two registered objects have the same name in generated code exactly if they have the same name
but for letter case and the same number, or the name of one of them takes digits from the number of
the other one. So it is never the number alone in which they differ, and if it is the name, one of
the two names ends in a digit. -/
theorem qualifiedName_exact (a b : Registered) :
    (a.qualifiedName = b.qualifiedName ↔
      (Text.lower a.eplanName = Text.lower b.eplanName ∧ a.number = b.number) ∨
        a.Borrows b ∨ b.Borrows a) ∧
    (Text.lower a.eplanName = Text.lower b.eplanName → a.number ≠ b.number →
      a.qualifiedName ≠ b.qualifiedName) ∧
    (Text.lower a.eplanName ≠ Text.lower b.eplanName → a.qualifiedName = b.qualifiedName →
      EndsInDigit (Text.lower a.eplanName) ∨ EndsInDigit (Text.lower b.eplanName)) := by
  refine ⟨⟨eq_or_borrows_of_qualifiedName_eq, ?_⟩, fun name number same => ?_, fun name same => ?_⟩
  · rintro (⟨name, number⟩ | borrows | borrows)
    · rw [qualifiedName_eq_iff, name, number]
    · exact borrows.qualifiedName_eq
    · exact borrows.qualifiedName_eq.symm
  · rcases eq_or_borrows_of_qualifiedName_eq same with same | borrows | borrows
    · exact number same.2
    · exact borrows.lower_ne name
    · exact borrows.lower_ne name.symm
  · rcases eq_or_borrows_of_qualifiedName_eq same with same | borrows | borrows
    · exact absurd same.1 name
    · exact .inl borrows.endsInDigit
    · exact .inr borrows.endsInDigit

/-- The second tank of those called `TANK1` has the name of the twelfth of those called `Tank`, and
the second of these has not. -/
theorem qualifiedName_exact_tanks :
    let a : Registered := ⟨"TANK1", 2, 1⟩
    let b : Registered := ⟨"Tank", 12, 1⟩
    let c : Registered := ⟨"TANK", 2, 1⟩
    a.Borrows b ∧ a.qualifiedName = b.qualifiedName ∧ c.qualifiedName ≠ b.qualifiedName ∧
      (EndsInDigit (Text.lower a.eplanName) ∨ EndsInDigit (Text.lower b.eplanName)) := by
  intro a b c
  have borrows : a.Borrows b :=
    borrows_of_cuts (d := "1") (by decide) (by decide +kernel) (by decide +kernel)
  have collide := (qualifiedName_exact a b).1.mpr (.inr (.inl borrows))
  refine ⟨borrows, collide, (qualifiedName_exact c b).2.1 ?_ ?_,
    (qualifiedName_exact a b).2.2 ?_ collide⟩
  · decide +kernel
  · decide
  · decide +kernel

end Registered

end Plant
