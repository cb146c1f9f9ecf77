import TypeSlots.Availability
import TypeSlots.Signature
import TypeSlots.Suite

/-!
# Type slots

A slot ties a special method of Python to the function pointer of the type object that stands for
it, and to the opcode that calls it, if there is one. Two methods can share a pointer; an index then
tells them apart.
-/

set_option autoImplicit false

namespace TypeSlots

/-- A special method with its function pointer. -/
structure Slot where
  method : String
  pointer : String
  signature : Signature
  index : Option UInt8
  opcode : Option String
  availability : Availability
  deriving DecidableEq

namespace Slot

/-- A slot without index and opcode, in every version. -/
def plain (method pointer : String) (signature : Signature) : Slot where
  method := method
  pointer := pointer
  signature := signature
  index := none
  opcode := none
  availability := .any

/-- The slot with an index. -/
def withIndex (s : Slot) (index : UInt8) : Slot :=
  { s with index := some index }

/-- The slot with an opcode. -/
def withOpcode (s : Slot) (opcode : String) : Slot :=
  { s with opcode := some opcode }

/-- The slot with an availability. -/
def withAvailability (s : Slot) (availability : Availability) : Slot :=
  { s with availability := availability }

/-- The suite that holds a slot. -/
def suite? (s : Slot) : Option Suite :=
  Suite.ofPointer? s.pointer

/-- The family of opcodes that is named by the operator alone. -/
def binaryStem : List Char := "BINARY_".toList

/-- The operator of an opcode: its name without one leading `BINARY_`. -/
def operatorOf (opcode : String) : String :=
  if binaryStem.isPrefixOf opcode.toList then
    String.ofList (opcode.toList.drop binaryStem.length)
  else opcode

/-- The operator that calls a slot. -/
def operator? (s : Slot) : Option String :=
  s.opcode.map operatorOf

/-- Whether a slot is one half of a binary number pair. -/
def isPaired (s : Slot) : Bool :=
  s.signature == .binaryNumber && s.index.isSome

/-- Whether a slot is the half of a binary number pair that takes the operands exchanged. -/
def isReflected (s : Slot) : Bool :=
  s.signature == .binaryNumber && s.index == some 1

/-- A short text for a slot: its method and its pointer. -/
def label (s : Slot) : String :=
  s.method ++ ":" ++ s.pointer

end Slot

end TypeSlots
