import TypeSlots.Records
import TypeSlots.Text.Record.Reader
import Mathlib.Data.List.Basic

/-!
# Records are decoded from their compact texts

Slots, comparisons and versions are written as compact records. One decoder to a kind takes every
text back to its value, so different values have different texts, and no text holds a raw control
character (`Lossless`). The decoder reads the text as a record and the record as a value; both
halves undo what they are for, whatever the texts inside the record are (`lossless`). Control
characters are kept out at the single character of a JSON string (`controlFree_jsonChar`), from
where the law goes up to the record.
-/

set_option autoImplicit false

namespace TypeSlots.Text

/-! ## No control characters -/

/-- No character of a text is a control below U+0020. -/
def ControlFree (cs : List Char) : Prop :=
  ∀ c ∈ cs, 0x20 ≤ c.toNat

instance (cs : List Char) : Decidable (ControlFree cs) :=
  List.decidableBAll (fun c : Char => 0x20 ≤ c.toNat) cs

theorem controlFree_nil : ControlFree [] :=
  List.forall_mem_nil _

theorem controlFree_cons_iff (c : Char) (cs : List Char) :
    ControlFree (c :: cs) ↔ 0x20 ≤ c.toNat ∧ ControlFree cs :=
  List.forall_mem_cons

theorem controlFree_append_iff (cs ds : List Char) :
    ControlFree (cs ++ ds) ↔ ControlFree cs ∧ ControlFree ds :=
  List.forall_mem_append

/-- The letter that stands for a character is no control. -/
theorem le_toNat_of_jsonShorthand? {c letter : Char} (h : jsonShorthand? c = some letter) :
    0x20 ≤ letter.toNat := by
  unfold jsonShorthand? at h
  split at h <;> cases h <;> decide

theorem le_toNat_digitChar {d : Nat} (h : d < 16) : 0x20 ≤ (Nat.digitChar d).toNat := by
  revert d
  decide

/-- A control is written without controls, and so is every other character. -/
theorem controlFree_jsonChar (c : Char) : ControlFree (jsonChar c) := by
  unfold jsonChar
  split
  · rename_i letter h
    simp only [controlFree_cons_iff]
    exact ⟨by decide, le_toNat_of_jsonShorthand? h, controlFree_nil⟩
  · split
    · have hhigh := le_toNat_digitChar (show c.toNat / 16 < 16 by omega)
      have hlow := le_toNat_digitChar (show c.toNat % 16 < 16 by omega)
      simp only [controlFree_cons_iff]
      exact ⟨by decide, by decide, by decide, by decide, hhigh, hlow, controlFree_nil⟩
    · rename_i hc
      intro d hd
      obtain rfl : d = c := List.mem_singleton.1 hd
      exact Nat.le_of_not_lt hc

theorem controlFree_jsonString (s : String) : ControlFree (jsonString s) := by
  rw [jsonString, controlFree_cons_iff, controlFree_append_iff]
  refine ⟨by decide, ?_, by decide⟩
  intro d hd
  obtain ⟨c, -, hdc⟩ := List.mem_flatMap.1 hd
  exact controlFree_jsonChar c d hdc

theorem controlFree_decimal (n : Nat) : ControlFree (Numeral.decimal n) := by
  intro c hc
  have hdigit : c.isDigit = true := Nat.isDigit_of_mem_toDigits (by decide) (by decide) hc
  rw [Char.isDigit_iff_toNat] at hdigit
  exact Nat.le_trans (show 0x20 ≤ '0'.toNat by decide) hdigit.1

theorem controlFree_cell (cell : Cell) : ControlFree cell.compact := by
  cases cell with
  | null =>
    rw [Cell.compact]
    decide
  | number n => exact controlFree_decimal n
  | text s => exact controlFree_jsonString s

namespace Record

theorem controlFree_member (m : String × Cell) : ControlFree (member m) := by
  rw [member, controlFree_append_iff, controlFree_cons_iff]
  exact ⟨controlFree_jsonString m.1, by decide, controlFree_cell m.2⟩

theorem controlFree_members (r : Record) : ControlFree (members r) := by
  fun_induction members r with
  | case1 => exact controlFree_nil
  | case2 m => exact controlFree_member m
  | case3 m n ms ih =>
    rw [controlFree_append_iff, controlFree_cons_iff]
    exact ⟨controlFree_member m, by decide, ih⟩

/-- The compact form of a record has no raw control character. -/
theorem controlFree_compact (r : Record) : ControlFree (compact r).toList := by
  rw [compact, String.toList_ofList, controlFree_cons_iff, controlFree_append_iff]
  exact ⟨by decide, controlFree_members r, by decide⟩

/-! ## Decoding -/

variable {α : Type}

/-- The value that a compact text describes: the text is read as a record, the record as a value. -/
def decode? (ofRecord? : Record → Option α) (text : String) : Option α :=
  (read? text).bind ofRecord?

/-- Values are told from the compact texts of their records. -/
structure Lossless (record : α → Record) (ofRecord? : Record → Option α) : Prop where
  /-- The text of a value is decoded to that value. -/
  decode?_text : ∀ a, decode? ofRecord? (compact (record a)) = some a
  /-- Two values have one text when they are equal, and not otherwise. -/
  text_inj : ∀ a b, compact (record a) = compact (record b) ↔ a = b
  controlFree : ∀ a, ControlFree (compact (record a)).toList

/-- Values that are read back from their records are told from their texts. -/
theorem lossless {record : α → Record} {ofRecord? : Record → Option α}
    (h : ∀ a, ofRecord? (record a) = some a) : Lossless record ofRecord? where
  decode?_text a := by
    rw [decode?, read?_compact, Option.bind_some, h]
  text_inj a b := by
    rw [compact_inj]
    constructor
    · intro hab
      exact Option.some.inj ((h a).symm.trans ((congrArg ofRecord? hab).trans (h b)))
    · exact congrArg record
  controlFree a := controlFree_compact (record a)

/-- Slots, comparisons and versions are told from their compact texts. Each kind has a decoder
that takes the text of every value back to it, so that only equal values share a text; no text has a
raw control character. In particular a slot without opcode, one with the opcode `null` and one with
the empty opcode differ in their texts, and so do a slot without index and one with index zero. -/
theorem texts_decode_to_their_values :
    Lossless Slot.record Slot.ofRecord? ∧
    Lossless Comparison.record Comparison.ofRecord? ∧
    Lossless Version.record Version.ofRecord? ∧
    (∀ s : Slot, [none, some "null", some ""].Pairwise fun a b =>
      compact { s with opcode := a }.record ≠ compact { s with opcode := b }.record) ∧
    (∀ s : Slot, compact { s with index := none }.record ≠
      compact { s with index := some 0 }.record) := by
  have hslot : Lossless Slot.record Slot.ofRecord? := lossless Slot.ofRecord?_record
  refine ⟨hslot, lossless Comparison.ofRecord?_record, lossless Version.ofRecord?_record, ?_, ?_⟩
  · intro s
    have hopcodes : [none, some "null", some ""].Pairwise fun a b : Option String => a ≠ b := by
      decide
    refine hopcodes.imp fun {a b} hne htext => hne ?_
    exact congrArg Slot.opcode ((hslot.text_inj _ _).1 htext)
  · intro s htext
    exact absurd (congrArg Slot.index ((hslot.text_inj _ _).1 htext)) (by simp)

/-- Control: a quote, a backslash and a control in a name, and a name that looks like a field. -/
example :
    compact (Comparison.record ⟨"a\"\\\x01", 9, some "b\",\"index\":0"⟩) =
      "\x7b\"op\":\"a\\\"\\\\\\u0001\",\"index\":9,\"magic\":\"b\\\",\\\"index\\\":0\"\x7d" := by
  decide +kernel

end Record

end TypeSlots.Text
