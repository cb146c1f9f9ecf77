import TypeSlots.Environment
import TypeSlots.Text.Quoted

/-!
# Problems

What the library refuses, by cause. The wording of every refusal is in `Problem.message` and nowhere
else.
-/

set_option autoImplicit false

namespace TypeSlots

/-- A refusal. -/
inductive Problem where
  /-- A text holds no major number where a version is wanted. -/
  | versionMissing (text : String)
  | majorUnreadable
  | minorUnreadable
  | signatureUnknown (tag : String)
  | availabilityUnknown (tag : String)
  /-- The target variable holds octets that are not text. -/
  | targetNotText (octets : List UInt8)
  /-- The target variable holds a text that is no version. -/
  | targetUnreadable (text : String)
  /-- A problem that a caller words. -/
  | note (text : String)
  deriving DecidableEq

/-- The wording of a problem. -/
def Problem.message : Problem → String
  | versionMissing text => "expected a Python version, got `" ++ text ++ "`"
  | majorUnreadable => "failed to parse major version"
  | minorUnreadable => "failed to parse minor version"
  | signatureUnknown tag => "unknown slot function type: " ++ tag
  | availabilityUnknown tag => "unknown python version tag: " ++ tag
  | targetNotText octets =>
    Environment.targetVariable ++ " is not valid unicode: " ++ Text.quotedOctets octets
  | targetUnreadable text => "failed to parse " ++ Environment.targetVariable ++ "=`" ++ text ++ "`"
  | note text => text

end TypeSlots
