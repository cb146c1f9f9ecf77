import TypeSlots.Availability
import TypeSlots.Signature
import TypeSlots.Version

/-!
# Distinct values

A list without the items that are equal to an earlier one. What counts is the value: two texts that
name the same value are one item.
-/

set_option autoImplicit false

namespace TypeSlots.Distinct

variable {α : Type}

/-- The positions of the items that are not equal to an earlier one. -/
def positions [DecidableEq α] (items : List α) : List Nat :=
  (List.range items.length).filter fun i => items[i]?.any fun a => !(items.take i).contains a

/-- The values that texts name, without those named before; the leftmost text that names none is
the fault. -/
def read [DecidableEq α] (parse : String → Except Fault α) (texts : List String) :
    Except Fault (List α) :=
  (texts.mapM parse).map List.eraseDups

/-- The distinct versions that texts name, in canonical form. -/
def versions (texts : List String) : Except Fault (List String) :=
  (read Version.parse texts).map fun vs => vs.map Version.text

/-- The distinct availabilities that texts name, by their tags. -/
def availabilities (texts : List String) : Except Fault (List String) :=
  (read Availability.parse texts).map fun vs => vs.map Availability.tag

/-- The distinct signatures that texts name, by their tags. -/
def signatures (texts : List String) : Except Fault (List String) :=
  (read Signature.parse texts).map fun vs => vs.map Signature.tag

end TypeSlots.Distinct
