import TypeSlots.Journal
import TypeSlots.Lookup

/-!
# The target version

The target variable of an environment chooses a version, and with it the slots to use. Without it
there is no target, and every slot is used. The variable is read anew at every call.
-/

set_option autoImplicit false

namespace TypeSlots.Target

/-- The version that octets name as a text. -/
def read (octets : List UInt8) : Except Fault Version :=
  match Text.text? octets with
  | none => .error (.stated (.targetNotText octets))
  | some text => Id.run (Fault.explainWith (pure (.targetUnreadable text)) (Version.parse text))

/-- The version that the value of the target variable chooses. -/
def ofValue : Option (List UInt8) → Logged (Except Fault (Option Version))
  | none => .quiet (.ok none)
  | some octets =>
    match read octets with
    | .error fault => .quiet (.error fault)
    | .ok version => (Logged.quiet (.ok (some version))).report (.targetChosen version)

/-- The target version of an environment. -/
def version (env : Environment) : Logged (Except Fault (Option Version)) :=
  ofValue (env.get? Environment.targetVariable)

/-- The slots of a table to use for a target version. -/
def select (table : List Slot) : Option Version → List Slot
  | none => table
  | some version => Lookup.inMajor table version.major

/-- The slots of a table to use in an environment. -/
def slots (table : List Slot) (env : Environment) : Logged (Except Fault (List Slot)) :=
  (version env).map fun target => target.map (select table)

end TypeSlots.Target
