import TypeSlots.Fault.Basic
import TypeSlots.Text.Blank

/-!
# Versions

A version is a major and a minor number of one octet each. `parse` reads it from text: blanks at
both ends do not count, the first point divides the numbers, and a major number alone has minor
zero. `text` writes the canonical form. Versions are ordered by major, then by minor number.
-/

set_option autoImplicit false

namespace TypeSlots

/-- A version of the Python language. -/
structure Version where
  major : UInt8
  minor : UInt8
  deriving DecidableEq

namespace Version

/-- The last version of Python 2. -/
def python2 : Version := ⟨2, 7⟩

/-- The first version of Python 3. -/
def python3 : Version := ⟨3, 0⟩

/-- The canonical text of a version. -/
def text (v : Version) : String :=
  String.ofList (Numeral.decimal v.major.toNat ++ '.' :: Numeral.decimal v.minor.toNat)

/-- The text before the first point, and the text after it if there is a point. -/
def splitPoint (cs : List Char) : List Char × Option (List Char) :=
  (cs.takeWhile (· != '.'), (cs.dropWhile (· != '.')).tail?)

/-- A component of a version, a failure being explained by a problem. -/
def component (problem : Problem) (cs : List Char) : Except Fault UInt8 :=
  Fault.explain problem ((Numeral.readOctet cs).mapError .numeral)

/-- The version that a text names. The major number is judged before the minor one. -/
def parse (text : String) : Except Fault Version := do
  let (major, minor?) := splitPoint (Text.trim text.toList)
  Fault.require (!major.isEmpty) (.versionMissing text)
  let major ← component .majorUnreadable major
  let minor ← (minor?.map (component .minorUnreadable)).getD (.ok 0)
  return ⟨major, minor⟩

/-! ## Order -/

/-- The order of versions: by major number, then by minor number. -/
instance : Ord Version where
  compare a b := (compare a.major b.major).then (compare a.minor b.minor)

/-- The later of two versions. -/
def later (a b : Version) : Version :=
  if (compare a b).isLE then b else a

/-- The earlier of two versions. -/
def earlier (a b : Version) : Version :=
  if (compare a b).isLE then a else b

/-- How one octet stands to another. Octets can always be compared. -/
def compareOctets? (a b : UInt8) : Option Ordering :=
  some (if a < b then .lt else if a = b then .eq else .gt)

/-- How one version stands to another, if they can be compared: by their major numbers, and where
these are equal by their minor ones. -/
def compare? (a b : Version) : Option Ordering :=
  match compareOctets? a.major b.major with
  | some .eq => compareOctets? a.minor b.minor
  | other => other

/-- How two versions stand to each other. -/
structure Standing where
  order : Ordering
  equal : Bool
  /-- Whether the first version comes before the second. -/
  isBefore : Bool
  /-- Whether the first version does not come before the second. -/
  isAtLeast : Bool
  earlier : Version
  later : Version

/-- The standing of two versions. -/
def standing (a b : Version) : Standing where
  order := compare a b
  equal := a = b
  isBefore := compare? a b = some .lt
  isAtLeast := compare? a b = some .gt ∨ compare? a b = some .eq
  earlier := earlier a b
  later := later a b

/-- The standing of the versions that two texts name; the first text is judged first. -/
def compareTexts (a b : String) : Except Fault Standing := do
  let a ← parse a
  let b ← parse b
  return standing a b

/-- The versions that texts name, in ascending order and in canonical form; the leftmost text that
names none is the fault. -/
def sortTexts (texts : List String) : Except Fault (List String) := do
  let versions ← texts.mapM parse
  return (versions.mergeSort fun a b => (compare a b).isLE).map text

end Version

end TypeSlots
