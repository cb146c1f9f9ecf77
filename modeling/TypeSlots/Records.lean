import TypeSlots.Comparison
import TypeSlots.Slot.Basic
import TypeSlots.Text.Record
import TypeSlots.Version

/-!
# Records of slots, comparisons and versions

The cells under which a slot, a comparison or a version is written, in the order of the record.
Signatures and availabilities are written by their tags, and what is absent is null. Each kind of
record is read back (`Slot.ofRecord?_record` and its companions), so a value can be told from its
record.
-/

set_option autoImplicit false

namespace TypeSlots

open Text

/-! ## Cells of single values -/

namespace Text.Cell

/-- A text that may be absent. -/
def ofText? (s : Option String) : Cell :=
  (s.map text).getD null

/-- An octet. -/
def ofOctet (b : UInt8) : Cell :=
  number b.toNat

/-- An octet that may be absent. -/
def ofOctet? (b : Option UInt8) : Cell :=
  (b.map ofOctet).getD null

/-- The text in a cell, or its absence. -/
def toText? : Cell → Option (Option String)
  | null => some none
  | text s => some (some s)
  | number _ => none

/-- The octet in a cell. -/
def toOctet : Cell → Option UInt8
  | number n => if n < 256 then some (UInt8.ofNat n) else none
  | _ => none

/-- The octet in a cell, or its absence. -/
def toOctet? : Cell → Option (Option UInt8)
  | null => some none
  | cell => cell.toOctet.map some

/-- A text that may be absent is read back. -/
@[simp] theorem toText?_ofText? (s : Option String) : (ofText? s).toText? = some s := by
  cases s <;> rfl

/-- An octet is read back. -/
@[simp] theorem toOctet_ofOctet (b : UInt8) : (ofOctet b).toOctet = some b := by
  simp [ofOctet, toOctet, b.toNat_lt]

/-- An octet that may be absent is read back. -/
@[simp] theorem toOctet?_ofOctet? (b : Option UInt8) : (ofOctet? b).toOctet? = some b := by
  cases b with
  | none => rfl
  | some b => exact congrArg (Option.map some) (toOctet_ofOctet b)

end Text.Cell

/-! ## Slots -/

namespace Slot

/-- The record of a slot. -/
def record (s : Slot) : Record := [
  ("python_name", .text s.method),
  ("c_name", .text s.pointer),
  ("function_type", .text s.signature.tag),
  ("index", .ofOctet? s.index),
  ("opcode", .ofText? s.opcode),
  ("python_version", .text s.availability.tag)]

/-- The slot that a record describes. -/
def ofRecord? : Record → Option Slot
  | [("python_name", .text method), ("c_name", .text pointer), ("function_type", .text signature),
      ("index", index), ("opcode", opcode), ("python_version", .text availability)] => do
    let signature ← Signature.ofTag? signature
    let index ← index.toOctet?
    let opcode ← opcode.toText?
    let availability ← Availability.ofTag? availability
    return ⟨method, pointer, signature, index, opcode, availability⟩
  | _ => none

/-- A slot is read back from its record. -/
theorem ofRecord?_record (s : Slot) : ofRecord? s.record = some s := by
  simp [record, ofRecord?, Signature.ofTag?_tag, Availability.ofTag?_tag]

end Slot

/-! ## Comparisons and versions -/

namespace Comparison

/-- The record of a comparison. -/
def record (c : Comparison) : Record := [
  ("op", .text c.name),
  ("index", .ofOctet c.index),
  ("magic", .ofText? c.method)]

/-- The comparison that a record describes. -/
def ofRecord? : Record → Option Comparison
  | [("op", .text name), ("index", index), ("magic", method)] => do
    return ⟨name, ← index.toOctet, ← method.toText?⟩
  | _ => none

/-- A comparison is read back from its record. -/
theorem ofRecord?_record (c : Comparison) : ofRecord? c.record = some c := by
  simp [record, ofRecord?]

end Comparison

namespace Version

/-- The record of a version. -/
def record (v : Version) : Record := [
  ("major", .ofOctet v.major),
  ("minor", .ofOctet v.minor)]

/-- The version that a record describes. -/
def ofRecord? : Record → Option Version
  | [("major", major), ("minor", minor)] => do
    return ⟨← major.toOctet, ← minor.toOctet⟩
  | _ => none

/-- A version is read back from its record. -/
theorem ofRecord?_record (v : Version) : ofRecord? v.record = some v := by
  simp [record, ofRecord?]

end Version

end TypeSlots
