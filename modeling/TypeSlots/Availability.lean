import TypeSlots.Fault.Basic

/-!
# Availability

Some slots exist in one major version of Python only. An availability says in which; its tag is the
number of that version, or `*` for all.
-/

set_option autoImplicit false

namespace TypeSlots

/-- The major versions in which a slot exists. -/
inductive Availability where
  | python2
  | python3
  | any
  deriving DecidableEq

namespace Availability

/-- The tag of an availability. -/
def tag : Availability → String
  | python2 => "2"
  | python3 => "3"
  | any => "*"

/-- Whether a slot with an availability exists in a major version. -/
def admits (a : Availability) (major : UInt8) : Bool :=
  match a with
  | python2 => major == 2
  | python3 => major == 3
  | any => true

/-- The major versions, in ascending order, in which a slot with an availability exists. -/
def majors (a : Availability) : List UInt8 :=
  ((List.range 256).map UInt8.ofNat).filter a.admits

/-- The availability with a tag. -/
def ofTag? : String → Option Availability
  | "2" => some python2
  | "3" => some python3
  | "*" => some any
  | _ => none

/-- The availability that a text names, which is its tag and nothing else. -/
def parse (text : String) : Except Fault Availability :=
  match ofTag? text with
  | some a => .ok a
  | none => .error (.stated (.availabilityUnknown text))

/-- Every availability is found by its tag. -/
theorem ofTag?_tag (a : Availability) : ofTag? a.tag = some a := by
  cases a <;> rfl

end Availability

end TypeSlots
