import TypeSlots.Slot.Basic

/-!
# Looking slots up

Scans of a table of slots, which keep the order of the table, and the search for the other half of
a binary number pair.
-/

set_option autoImplicit false

namespace TypeSlots.Lookup

/-- The slots of a method. -/
def ofMethod (table : List Slot) (method : String) : List Slot :=
  table.filter fun s => s.method == method

/-- The slots behind a pointer. -/
def ofPointer (table : List Slot) (pointer : String) : List Slot :=
  table.filter fun s => s.pointer == pointer

/-- The slots that exist in a major version. -/
def inMajor (table : List Slot) (major : UInt8) : List Slot :=
  table.filter fun s => s.availability.admits major

/-- The index of the other half of a pair. -/
def otherHalf? (index : UInt8) : Option UInt8 :=
  if index = 0 then some 1 else if index = 1 then some 0 else none

/-- The method whose slot is the other half of the pair of a method. -/
def reflection? (table : List Slot) (method : String) : Option String := do
  let slot ← (ofMethod table method).find? fun s => s.isPaired
  let other ← slot.index.bind otherHalf?
  let partner ← (ofPointer table slot.pointer).find? fun s =>
    s.signature == .binaryNumber && s.index == some other
  return partner.method

/-- A scan for a method finds its slots and no other. -/
@[simp] theorem mem_ofMethod (table : List Slot) (method : String) (s : Slot) :
    s ∈ ofMethod table method ↔ s ∈ table ∧ s.method = method := by
  rw [ofMethod, List.mem_filter, beq_iff_eq]

/-- A scan for a pointer finds its slots and no other. -/
@[simp] theorem mem_ofPointer (table : List Slot) (pointer : String) (s : Slot) :
    s ∈ ofPointer table pointer ↔ s ∈ table ∧ s.pointer = pointer := by
  rw [ofPointer, List.mem_filter, beq_iff_eq]

end TypeSlots.Lookup
