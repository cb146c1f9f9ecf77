/-!
# Numerals of one octet

Reading a decimal numeral whose value has to fit a limit. A numeral is an optional plus sign and
one or more ASCII digits; leading zeros do not count. Digits are taken from left to right, and the
first defect met is the one reported: at one character, being no digit comes before the value
growing past the limit.
-/

set_option autoImplicit false

namespace TypeSlots.Numeral

/-- What keeps a text from being a numeral within the limit. -/
inductive Defect where
  | empty
  | invalidDigit
  | tooLarge
  deriving DecidableEq

/-- The wording of a defect. -/
def Defect.message : Defect → String
  | .empty => "cannot parse integer from empty string"
  | .invalidDigit => "invalid digit found in string"
  | .tooLarge => "number too large to fit in target type"

/-- The value of an ASCII digit. -/
def digit? (c : Char) : Option Nat :=
  if c.isDigit then some (c.toNat - '0'.toNat) else none

/-- Reads digits after those that gave `value`. -/
def accumulate (limit value : Nat) : List Char → Except Defect Nat
  | [] => .ok value
  | c :: rest =>
    match digit? c with
    | none => .error .invalidDigit
    | some d =>
      if 10 * value + d ≤ limit then accumulate limit (10 * value + d) rest
      else .error .tooLarge

/-- The digits of a numeral: a plus sign is dropped when something follows it. -/
def unsigned : List Char → List Char
  | '+' :: c :: rest => c :: rest
  | cs => cs

/-- The value of a numeral, which is at most `limit`. -/
def read (limit : Nat) : List Char → Except Defect Nat
  | [] => .error .empty
  | c :: rest => accumulate limit 0 (unsigned (c :: rest))

/-- The value of a numeral of one octet. -/
def readOctet (cs : List Char) : Except Defect UInt8 :=
  (read 255 cs).map UInt8.ofNat

/-- The decimal digits of a number, without leading zeros. -/
def decimal (n : Nat) : List Char :=
  Nat.toDigits 10 n

end TypeSlots.Numeral
