/-!
# Character classes

A class of characters is a list of inclusive ranges of code points, the form in which the
properties of characters are published. `CharClass.contains` decides membership, and
`CharClass.contains_iff` states it by the ranges.
-/

set_option autoImplicit false

namespace TypeSlots.Text

/-- A class of characters, as inclusive ranges of code points. -/
structure CharClass where
  ranges : List (Nat × Nat)

namespace CharClass

/-- Membership of a character in a class. -/
def contains (k : CharClass) (c : Char) : Bool :=
  k.ranges.any fun r => r.1 ≤ c.toNat && c.toNat ≤ r.2

/-- A character is in a class exactly when one of the ranges holds its code point. -/
theorem contains_iff (k : CharClass) (c : Char) :
    k.contains c = true ↔ ∃ r ∈ k.ranges, r.1 ≤ c.toNat ∧ c.toNat ≤ r.2 := by
  simp [contains]

end CharClass

end TypeSlots.Text
