/-!
# Hexadecimal numerals

Digits of either case and the numbers that they write. `hexNumber` reads what is written with the
lower-case digits of a number, whatever their count (`hexNumber_toDigits`); `hexValue` reads a digit
of either case.
-/

set_option autoImplicit false

namespace TypeSlots.Text

/-- The upper-case digit of a number below sixteen. -/
def upperDigit (d : Nat) : Char :=
  (Nat.digitChar d).toUpper

/-- The value of a digit, and zero for what is none. -/
def hexValue (c : Char) : Nat :=
  if '0' ≤ c ∧ c ≤ '9' then c.toNat - '0'.toNat
  else if 'a' ≤ c ∧ c ≤ 'f' then c.toNat - 'a'.toNat + 10
  else if 'A' ≤ c ∧ c ≤ 'F' then c.toNat - 'A'.toNat + 10
  else 0

/-- The number that digits write, the most significant first. -/
def hexNumber (cs : List Char) : Nat :=
  cs.foldl (fun n c => 16 * n + hexValue c) 0

/-- A lower-case digit has the value that it writes. -/
theorem hexValue_digitChar {d : Nat} (h : d < 16) : hexValue (Nat.digitChar d) = d := by
  revert d
  decide

/-- An upper-case digit has the value that it writes. -/
theorem hexValue_upperDigit {d : Nat} (h : d < 16) : hexValue (upperDigit d) = d := by
  revert d
  decide

/-- The digits of a number write that number. -/
theorem hexNumber_toDigits (n : Nat) : hexNumber (Nat.toDigits 16 n) = n := by
  induction n using Nat.strongRecOn with
  | ind n ih =>
    rw [Nat.toDigits_eq_if (by decide)]
    split
    · rename_i h
      simpa [hexNumber] using hexValue_digitChar h
    · rename_i h
      have hd := ih (n / 16) (by omega)
      have hv := hexValue_digitChar (Nat.mod_lt n (show 16 > 0 by decide))
      rw [hexNumber] at *
      rw [List.foldl_append, hd]
      simp only [List.foldl_cons, List.foldl_nil, hv]
      omega

end TypeSlots.Text
