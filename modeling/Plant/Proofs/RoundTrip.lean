import Plant.Proofs.Json.Records
import Plant.Proofs.Json.Writing
import Plant.Settings
import Plant.Values

/-!
# Settings and owners that are written

Settings are written as a record with one key, an owner as its number. Each is read back from the
document that it is written as, and from every other document that holds it: settings with any
spelling of the indent, as a record or as a list; an owner up to the greatest number of 64 bits,
since integers never become floating-point numbers on the way.

Results:
1. `Settings.compact_write`: settings are written in full, and no text that has them so is shorter.
2. `Settings.read_of_writtenAs`, `Owner.read_of_writtenAs`: whatever holds the value is read as it.
3. `documents_read_back`: what is written is read back, so different values are written differently.
-/
namespace Plant

open Json

/-! ## Settings -/

namespace Settings

variable {s : Settings} {v : List Char}

/-- The settings are written. -/
def Written (s : Settings) : List Char → Prop :=
  Recorded [.defaulted "prefix" standard.indent s.indent Quoted]

/-- The text is a document of the settings, with white space around it. -/
def WrittenAs (s : Settings) (text : String) : Prop := ∃ v, s.Written v ∧ Pads v text.toList

/-- The text is a record that has the indent under its key, and nothing else. -/
def InFull (s : Settings) (v : List Char) : Prop :=
  ∃ w m, Quoted s.indent w ∧ Keyed (Quoted "prefix") w m ∧ Enclosed '\x7b' '\x7d' [m] v

/-- The text has the settings in full, and no text that has them so takes fewer characters. -/
structure Compact (s : Settings) (v : List Char) : Prop where
  inFull : s.InFull v
  shortest : ∀ w, s.InFull w → v.length ≤ w.length

theorem reads (s : Settings) : shape.Reads 1 s s.Written :=
  reads_record (.defaulted _ _ (reads_text s.indent) Fields.describes_done) (by simp) _ _

theorem read_of_writtenAs {text : String} (h : s.WrittenAs text) : read text = .ok s := by
  obtain ⟨v, hv, pads⟩ := h
  exact s.reads.readDocument (by decide) hv pads

theorem written_of_inFull (h : s.InFull v) : s.Written v := by
  obtain ⟨w, m, hw, hm, hv⟩ := h
  exact .record (.known List.mem_cons_self (by simp) hw hm (.done (by simp))) hv

theorem toList_write (s : Settings) : s.write.toList =
    '\x7b' :: ((writeText "prefix").toList ++ ':' :: (writeText s.indent).toList ++ ['\x7d']) := by
  simp [write]

theorem compact_write (s : Settings) : s.Compact s.write.toList where
  inFull := by
    have member := keyed_append (quoted_writeText "prefix") (writeText s.indent).toList
    rw [toList_write]
    exact ⟨_, _, quoted_writeText s.indent, member, enclosed_singleton _ _ _⟩
  shortest w h := by
    obtain ⟨w, m, hw, ⟨t, k, t', i, -, hk, -, ⟨p, p', -, -, rfl⟩, rfl⟩, hv⟩ := h
    have key := length_writeText_le hk
    have indent := length_writeText_le hw
    cases hv
    rw [toList_write]
    simp only [List.length_cons, List.length_append]
    omega

theorem read_write (s : Settings) : read s.write = .ok s :=
  read_of_writtenAs ⟨_, written_of_inFull s.compact_write.inFull, pads_self _⟩

end Settings

/-! ## Owners -/

namespace Owner

/-- The text is a document of the owner, with white space around it. -/
def WrittenAs (o : Owner) (text : String) : Prop :=
  ∃ v, IntegerText o.number.toNat v ∧ Pads v text.toList

theorem reads (o : Owner) : shape.Reads 0 o (IntegerText o.number.toNat) := by
  have natural : 0 ≤ (o.number.toNat : Int) := Int.natCast_nonneg _
  have small : (o.number.toNat : Int) < UInt64.size := Int.ofNat_lt.mpr o.number.toNat_lt
  refine reads_integer ?_ ⟨Int.le_trans (by decide) natural, small⟩ _
  rw [if_pos ⟨natural, small⟩, Int.toNat_natCast, UInt64.ofNat_toNat]

theorem read_of_writtenAs {o : Owner} {text : String} (h : o.WrittenAs text) :
    read text = .ok o := by
  obtain ⟨v, hv, pads⟩ := h
  exact o.reads.readDocument (by decide) hv pads

theorem read_write (o : Owner) : read o.write = .ok o :=
  read_of_writtenAs ⟨_, integerText_decimal o.number.toNat, pads_self _⟩

end Owner

/-! ## Reading back -/

theorem injective_of_read_write {α : Type} {read : String → Except Fault α} {write : α → String}
    (h : ∀ a, read (write a) = .ok a) : Function.Injective write := by
  intro a b same
  have read_same : read (write a) = read (write b) := congrArg read same
  rw [h a, h b] at read_same
  exact Except.ok.inj read_same

/-- The brace of a record is no digit. -/
theorem write_ne_write (s : Settings) (o : Owner) : s.write ≠ o.write := by
  intro same
  have brace : '\x7b' ∈ (Number.decimal o.number.toNat).toList := by
    rw [← Owner.write, ← same]
    simp [Settings.write]
  exact absurd (Number.isDigit_of_mem_decimal brace) (by decide)

/-- Settings and owners are read back from the documents that they are written as, whatever
characters the indent consists of and however great the number is. So no two values are written
alike. -/
theorem documents_read_back :
    (∀ s : Settings, s.Compact s.write.toList ∧ Settings.read s.write = .ok s) ∧
      (∀ o : Owner, IntegerText o.number.toNat o.write.toList ∧ Owner.read o.write = .ok o) ∧
      Function.Injective Settings.write ∧ Function.Injective Owner.write ∧
      ∀ (s : Settings) (o : Owner), s.write ≠ o.write := by
  refine ⟨fun s => ⟨s.compact_write, s.read_write⟩, fun o => ⟨?_, o.read_write⟩,
    injective_of_read_write Settings.read_write, injective_of_read_write Owner.read_write,
    write_ne_write⟩
  exact integerText_decimal o.number.toNat

example : Settings.write ⟨"\t\"\\\x01😀"⟩ = "\x7b\"prefix\":\"\\t\\\"\\\\\\u0001😀\"\x7d" := by
  decide

end Plant
