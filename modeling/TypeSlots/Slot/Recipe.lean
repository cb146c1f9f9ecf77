import TypeSlots.Slot.Basic

/-!
# Recipes for slots

A recipe starts from a plain slot and makes settings one after the other. A later setting of a field
replaces an earlier one. `read` takes the signature and the availabilities of a recipe from their
tags.
-/

set_option autoImplicit false

namespace TypeSlots

/-- One field of a slot set to a value. The type `A` is that of availabilities. -/
inductive Setting (A : Type) where
  | index (value : UInt8)
  | opcode (value : String)
  | availability (value : A)
  deriving DecidableEq

namespace Setting

/-- The slot with a setting made. -/
def apply (s : Slot) : Setting Availability → Slot
  | index value => s.withIndex value
  | opcode value => s.withOpcode value
  | availability value => s.withAvailability value

/-- The setting whose availability is given by its tag. -/
def read : Setting String → Except Fault (Setting Availability)
  | index value => .ok (index value)
  | opcode value => .ok (opcode value)
  | availability tag => (Availability.parse tag).map availability

end Setting

/-- A plain slot and the settings to make on it. The types `S` and `A` are those of signatures and
availabilities. -/
structure Recipe (S A : Type) where
  method : String
  pointer : String
  signature : S
  settings : List (Setting A)
  deriving DecidableEq

namespace Recipe

/-- The plain slot that a recipe starts from. -/
def start (r : Recipe Signature Availability) : Slot :=
  Slot.plain r.method r.pointer r.signature

/-- The slots after each of some settings in turn. -/
def slotsAfter (s : Slot) : List (Setting Availability) → List Slot
  | [] => []
  | setting :: settings => setting.apply s :: slotsAfter (setting.apply s) settings

/-- The plain slot of a recipe, then the slot after each setting. -/
def states (r : Recipe Signature Availability) : List Slot :=
  r.start :: slotsAfter r.start r.settings

/-- The slot that a recipe makes. -/
def build (r : Recipe Signature Availability) : Slot :=
  r.settings.foldl Setting.apply r.start

/-- The recipe whose signature and availabilities are given by their tags. The signature is judged
first, then the settings in order. -/
def read (r : Recipe String String) : Except Fault (Recipe Signature Availability) := do
  let signature ← Signature.parse r.signature
  let settings ← r.settings.mapM Setting.read
  return ⟨r.method, r.pointer, signature, settings⟩

end Recipe

end TypeSlots
