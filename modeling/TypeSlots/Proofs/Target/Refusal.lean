import TypeSlots.Target
import TypeSlots.Text.Quoted.Reader
import TypeSlots.Proofs.Target.Selection
import TypeSlots.Proofs.Text.Segments

/-!
# What the refusal of a value keeps of it

A value of the target variable that is no text is refused with a message that quotes its octets. The
message loses nothing: `refusedOctets?` reads the octets back from it (`refusedOctets?_message`), so
different values are refused in different words. Characters are shown where they stand, and only the
octets that lie in no character are shown by number; a text that looks like such a number is told
from one by its backslash, which is written twice.
-/

set_option autoImplicit false

namespace TypeSlots.Target

/-- The words in front of the octets that a refusal quotes. -/
def refusalIntroduction : String := "PYSLOTS_PYTHON_VERSION is not valid unicode: "

/-- The octets that are quoted in the message of a refusal. -/
def refusedOctets? (message : String) : Option (List UInt8) :=
  (message.toList.dropPrefix? refusalIntroduction.toList).bind fun forms =>
    Text.unquote? (String.ofList forms)

/-- A refusal introduces the octets and quotes them. -/
theorem message_targetNotText (octets : List UInt8) :
    (Problem.targetNotText octets).message = refusalIntroduction ++ Text.quotedOctets octets := by
  have hintroduction : Environment.targetVariable ++ " is not valid unicode: " =
      refusalIntroduction := by
    decide +kernel
  show Environment.targetVariable ++ " is not valid unicode: " ++ Text.quotedOctets octets = _
  rw [hintroduction]

/-- The octets are read back from the message of a refusal. -/
theorem refusedOctets?_message (octets : List UInt8) :
    refusedOctets? (Problem.targetNotText octets).message = some octets := by
  have hforms : (refusalIntroduction ++ Text.quotedOctets octets).toList.dropPrefix?
      refusalIntroduction.toList = some (Text.quotedOctets octets).toList := by
    rw [List.dropPrefix?_eq_some_iff]
    exact ⟨refusalIntroduction.toList, String.toList_append, beq_self_eq_true _⟩
  rw [message_targetNotText, refusedOctets?, hforms, Option.bind_some, String.ofList_toList]
  exact Text.unquote?_quotedOctets octets

/-- The message of a refusal shows the octets piece by piece, as they are divided into characters
and stray octets. -/
theorem exists_segmented_message (octets : List UInt8) :
    ∃ ps, Text.Segmented octets ps ∧ (Problem.targetNotText octets).message =
      refusalIntroduction ++ Text.enclose (ps.flatMap Text.quotePiece) :=
  ⟨Text.pieces octets, (Text.segmented_iff octets _).2 rfl, message_targetNotText octets⟩

/-- A value that is no text is refused as such, and nothing else happens. -/
theorem version_of_not_text {env : Environment} {octets : List UInt8}
    (hvalue : env.get? Environment.targetVariable = some octets)
    (h : ¬ ∃ text : String, octets = Text.utf8 text.toList) :
    version env = ⟨.error (.stated (.targetNotText octets)), []⟩ := by
  rw [version, hvalue]
  exact ofValue_of_read_error (read_of_not_text h)

/-- Refusals tell values that are no text apart. For every value of the target variable that no text
is encoded by, the target version is a fault, from whose message one function reads the octets of
the value back; so two such values that differ are refused with different messages. The message
shows each character of the value, wherever it stands, and by number each octet that lies in none.
-/
theorem refusals_tell_octets_apart {env env' : Environment} {octets octets' : List UInt8}
    (hvalue : env.get? Environment.targetVariable = some octets)
    (hvalue' : env'.get? Environment.targetVariable = some octets')
    (h : ¬ ∃ text : String, octets = Text.utf8 text.toList)
    (h' : ¬ ∃ text : String, octets' = Text.utf8 text.toList) :
    ∃ fault fault' : Fault,
      version env = ⟨.error fault, []⟩ ∧ version env' = ⟨.error fault', []⟩ ∧
      refusedOctets? fault.message = some octets ∧
      refusedOctets? fault'.message = some octets' ∧
      (octets ≠ octets' → fault.message ≠ fault'.message) ∧
      ∃ ps, Text.Segmented octets ps ∧ fault.message =
        "PYSLOTS_PYTHON_VERSION is not valid unicode: " ++
          Text.enclose (ps.flatMap Text.quotePiece) := by
  have hread := refusedOctets?_message octets
  have hread' := refusedOctets?_message octets'
  refine ⟨_, _, version_of_not_text hvalue h, version_of_not_text hvalue' h', hread, hread', ?_,
    exists_segmented_message octets⟩
  intro hne heq
  apply hne
  have hboth : some octets = some octets' := by
    rw [← hread, ← hread']
    exact congrArg refusedOctets? heq
  exact Option.some.inj hboth

/-- An octet 255 after a text that looks like the form of one, and two octets 255: the messages
differ, as the backslash of the text is written twice. -/
theorem refusals_of_lookalikes_differ :
    (withValue [0x5C, 0x78, 0x46, 0x46, 0xFF]).get? Environment.targetVariable =
      some [0x5C, 0x78, 0x46, 0x46, 0xFF] ∧
    (withValue [0xFF, 0xFF]).get? Environment.targetVariable = some [0xFF, 0xFF] ∧
    (¬ ∃ text : String, [0x5C, 0x78, 0x46, 0x46, 0xFF] = Text.utf8 text.toList) ∧
    (¬ ∃ text : String, [0xFF, 0xFF] = Text.utf8 text.toList) ∧
    ∃ fault fault' : Fault,
      version (withValue [0x5C, 0x78, 0x46, 0x46, 0xFF]) = ⟨.error fault, []⟩ ∧
      version (withValue [0xFF, 0xFF]) = ⟨.error fault', []⟩ ∧
      refusedOctets? fault.message = some [0x5C, 0x78, 0x46, 0x46, 0xFF] ∧
      refusedOctets? fault'.message = some [0xFF, 0xFF] ∧ fault.message ≠ fault'.message := by
  have hvalue := get?_withValue [0x5C, 0x78, 0x46, 0x46, 0xFF]
  have hvalue' := get?_withValue [0xFF, 0xFF]
  have h : ¬ ∃ text : String, [0x5C, 0x78, 0x46, 0x46, 0xFF] = Text.utf8 text.toList :=
    (Text.text?_eq_none_iff _).1 (by decide +kernel)
  have h' : ¬ ∃ text : String, [0xFF, 0xFF] = Text.utf8 text.toList :=
    (Text.text?_eq_none_iff _).1 (by decide +kernel)
  obtain ⟨fault, fault', hversion, hversion', hread, hread', hdiffer, -⟩ :=
    refusals_tell_octets_apart hvalue hvalue' h h'
  exact ⟨hvalue, hvalue', h, h', fault, fault', hversion, hversion', hread, hread',
    hdiffer (by decide)⟩

/-- Control: an accent that is shown by number between a stray octet and a quote. -/
example :
    (Problem.targetNotText [0xC3, 0xCC, 0x81, 0x22]).message =
      "PYSLOTS_PYTHON_VERSION is not valid unicode: \"\\xC3\\u\x7b301\x7d\\\"\"" := by
  decide +kernel

end TypeSlots.Target
