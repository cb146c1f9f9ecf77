import TypeSlots.Availability
import TypeSlots.Signature
import Mathlib.Logic.Function.Basic

/-!
# Reading tags

A reader of tags answers a text with the value whose tag it is (`ReadsTags`). Then no two values
share a tag, and a parser that refuses what the reader does not know reads the tags and nothing else
(`ReadsTags.readByTag`). Signatures are looked up in a list, which has to find every one of them
under its own tag (`FoundByTag`); availabilities are told by the letters of the tag.
-/

set_option autoImplicit false

namespace TypeSlots

variable {α : Type}

/-- A text is answered with the value whose tag it is, and with none if there is no such value. -/
def ReadsTags (ofTag? : String → Option α) (tag : α → String) : Prop :=
  ∀ text a, ofTag? text = some a ↔ text = tag a

/-- A search by the tag of a value finds that value. -/
def FoundByTag (all : List α) (tag : α → String) : Prop :=
  ∀ a, (all.find? fun b => tag b == tag a) = some a

/-- Texts are read as the values whose tags they are. -/
structure ReadByTag (parse : String → Except Fault α) (tag : α → String)
    (wording : String → String) : Prop where
  /-- A text is read as a value exactly if it is the tag of this value. -/
  accepted_iff : ∀ text a, parse text = .ok a ↔ text = tag a
  /-- A text that is no tag is refused, with one wording and without a cause. -/
  refused_iff : ∀ text message causes,
    (∃ fault, parse text = .error fault ∧ fault.message = message ∧ fault.causes = causes) ↔
      (∀ a, text ≠ tag a) ∧ message = wording text ∧ causes = []
  parse_tag : ∀ a, parse (tag a) = .ok a
  tag_inj : ∀ a b, tag a = tag b ↔ a = b

namespace ReadsTags

variable {ofTag? : String → Option α} {tag : α → String}

theorem ofTag?_eq_none_iff (h : ReadsTags ofTag? tag) (text : String) :
    ofTag? text = none ↔ ∀ a, text ≠ tag a := by
  simp only [Option.eq_none_iff_forall_ne_some, ne_eq, h text]

/-- Two values with one tag would both be the answer to it. -/
theorem tag_injective (h : ReadsTags ofTag? tag) : Function.Injective tag := by
  have hinv : Function.IsPartialInv tag ofTag? := by
    intro a text
    rw [h text a, eq_comm]
  exact hinv.injective

/-- A parser that answers as a reader of tags, or refuses, reads the tags and nothing else. -/
theorem readByTag (h : ReadsTags ofTag? tag) {parse : String → Except Fault α}
    {problem : String → Problem}
    (hparse : ∀ text, parse text = (ofTag? text).elim (.error (.stated (problem text))) .ok) :
    ReadByTag parse tag fun text => (problem text).message := by
  have haccepted : ∀ text a, parse text = .ok a ↔ text = tag a := by
    intro text a
    rw [← h text a, hparse]
    cases ofTag? text with
    | none => simp
    | some b => simp
  refine ⟨haccepted, ?_, fun a => (haccepted _ a).2 rfl, fun a b => h.tag_injective.eq_iff⟩
  intro text message causes
  rw [← h.ofTag?_eq_none_iff, hparse]
  cases ofTag? text with
  | none => simp [Fault.message, Fault.causes, eq_comm]
  | some b => simp

end ReadsTags

namespace FoundByTag

variable {all : List α} {tag : α → String}

/-- The list has every value. -/
theorem mem (h : FoundByTag all tag) (a : α) : a ∈ all :=
  List.mem_of_find?_eq_some (h a)

/-- A search that finds every value under its own tag reads tags. -/
theorem readsTags (h : FoundByTag all tag) :
    ReadsTags (fun text => all.find? fun b => tag b == text) tag := by
  intro text a
  constructor
  · intro hfind
    have hbeq := List.find?_some hfind
    exact (eq_of_beq hbeq).symm
  · rintro rfl
    exact h a

end FoundByTag

/-! ## The two kinds of tags -/

namespace Signature

theorem foundByTag : FoundByTag all tag :=
  ofTag?_tag

theorem parse_eq_elim (text : String) :
    parse text = (ofTag? text).elim (.error (.stated (.signatureUnknown text))) .ok := by
  rw [parse]
  cases ofTag? text <;> rfl

theorem readByTag : ReadByTag parse tag fun text => "unknown slot function type: " ++ text :=
  foundByTag.readsTags.readByTag parse_eq_elim

end Signature

namespace Availability

/-- The three texts that are told apart are the tags. -/
theorem readsTags : ReadsTags ofTag? tag := by
  intro text a
  constructor
  · intro h
    unfold ofTag? at h
    split at h
    · cases h
      rfl
    · cases h
      rfl
    · cases h
      rfl
    · cases h
  · rintro rfl
    exact ofTag?_tag a

theorem parse_eq_elim (text : String) :
    parse text = (ofTag? text).elim (.error (.stated (.availabilityUnknown text))) .ok := by
  rw [parse]
  cases ofTag? text <;> rfl

theorem readByTag : ReadByTag parse tag fun text => "unknown python version tag: " ++ text :=
  readsTags.readByTag parse_eq_elim

end Availability

/-- Tags are read exactly. A text is read as a signature exactly if it is the tag of this
signature, letter for letter; any other text is refused with a wording that quotes it, and without a
cause. So no two signatures share a tag, the list of signatures has them all, and writing a tag and
reading it are inverse to each other. The same holds of availabilities, which are read by the
letters of the tag and not by a list. -/
theorem tags_are_read_exactly :
    ReadByTag Signature.parse Signature.tag (fun text => "unknown slot function type: " ++ text) ∧
    FoundByTag Signature.all Signature.tag ∧
    (∀ s, s ∈ Signature.all) ∧
    ReadByTag Availability.parse Availability.tag
      (fun text => "unknown python version tag: " ++ text) :=
  ⟨Signature.readByTag, Signature.foundByTag, Signature.foundByTag.mem, Availability.readByTag⟩

/-- Control: a blank, a capital letter and a missing letter make another text of a tag, also where
two tags start alike. -/
example :
    Signature.ofTag? "binary" = some .binary ∧ Signature.ofTag? "binary_nb" = some .binaryNumber ∧
      ∀ text ∈ ["binary ", "Binary", "binary_", "binary_n"], Signature.ofTag? text = none := by
  decide +kernel

end TypeSlots
