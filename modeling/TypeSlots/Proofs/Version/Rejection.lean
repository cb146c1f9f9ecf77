import TypeSlots.Proofs.Version.Outcome

/-!
# Why a text is no version

`Rejection text message causes` lists the three grounds on which a text is refused as a version, the
first one that holds being the one reported, and says what is seen of the fault: its wording, and
its causes. A text is refused exactly on such a ground (`rejection_iff`), and never on two of them
(`Rejection.unique`).
-/

set_option autoImplicit false

namespace TypeSlots.Version

open Numeral (Denotes IsOctet Misread)

/-- A ground for refusing a text, with the wording and the causes of the fault. -/
inductive Rejection (text : String) : String → List Fault → Prop
  /-- The major part is empty; the minor part is not looked at. -/
  | majorMissing {minor? : Option (List Char)} :
    Parts text [] minor? →
      Rejection text ("expected a Python version, got `" ++ text ++ "`") []
  /-- The major part is no octet; the minor part is not looked at. -/
  | majorUnreadable {major : List Char} {minor? : Option (List Char)} {d : Numeral.Defect} :
    Parts text major minor? → major ≠ [] → ¬ IsOctet major → Misread major d →
      Rejection text "failed to parse major version" [.numeral d]
  /-- The major part is an octet, and there is a minor part, which is none. -/
  | minorUnreadable {major minor : List Char} {d : Numeral.Defect} :
    Parts text major (some minor) → IsOctet major → ¬ IsOctet minor → Misread minor d →
      Rejection text "failed to parse minor version" [.numeral d]

/-- A text is refused exactly on the grounds listed. -/
theorem rejection_iff (text message : String) (causes : List Fault) :
    (∃ fault, parse text = .error fault ∧ fault.message = message ∧ fault.causes = causes) ↔
      Rejection text message causes := by
  constructor
  · rintro ⟨fault, hparse, rfl, rfl⟩
    cases (parse_eq_iff text _).1 hparse with
    | missing hp => exact .majorMissing hp
    | majorMisread hp hne hd =>
      exact .majorUnreadable hp hne ((Numeral.exists_misread_iff _).1 ⟨_, hd⟩) hd
    | minorMisread hp ha hd =>
      exact .minorUnreadable hp ((Numeral.isOctet_iff_exists_denotes _).2 ⟨_, ha⟩)
        ((Numeral.exists_misread_iff _).1 ⟨_, hd⟩) hd
  · intro h
    cases h with
    | majorMissing hp => exact ⟨_, (parse_eq_iff text _).2 (.missing hp), rfl, rfl⟩
    | majorUnreadable hp hne _ hd =>
      exact ⟨_, (parse_eq_iff text _).2 (.majorMisread hp hne hd), rfl, rfl⟩
    | minorUnreadable hp hmajor _ hd =>
      obtain ⟨a, ha⟩ := (Numeral.isOctet_iff_exists_denotes _).1 hmajor
      exact ⟨_, (parse_eq_iff text _).2 (.minorMisread hp ha hd), rfl, rfl⟩

/-- A text is refused on one ground at most. -/
theorem Rejection.unique {text message message' : String} {causes causes' : List Fault}
    (h : Rejection text message causes) (h' : Rejection text message' causes') :
    message = message' ∧ causes = causes' := by
  obtain ⟨fault, hparse, rfl, rfl⟩ := (rejection_iff text _ _).2 h
  obtain ⟨fault', hparse', rfl, rfl⟩ := (rejection_iff text _ _).2 h'
  have he : fault = fault' := by simpa using hparse.symm.trans hparse'
  subst he
  exact ⟨rfl, rfl⟩

/-- A fault has a cause unless the major part is empty, and never more than one. -/
theorem length_causes_of_parse {text : String} {fault : Fault} (h : parse text = .error fault) :
    ((∃ minor?, Parts text [] minor?) → fault.causes.length = 0) ∧
      ((¬ ∃ minor?, Parts text [] minor?) → fault.causes.length = 1) := by
  have hrej := (rejection_iff text _ _).1 ⟨fault, h, rfl, rfl⟩
  -- How many causes there are depends on the ground alone, so the fault is left behind.
  generalize fault.message = message at hrej
  generalize fault.causes = causes at hrej ⊢
  cases hrej with
  | majorMissing hp => exact ⟨fun _ => rfl, fun hno => absurd ⟨_, hp⟩ hno⟩
  | majorUnreadable hp hne _ _ => exact ⟨fun ⟨_, hp'⟩ => absurd (hp.unique hp').1 hne, fun _ => rfl⟩
  | minorUnreadable hp hmajor _ _ =>
    obtain ⟨a, ha⟩ := (Numeral.isOctet_iff_exists_denotes _).1 hmajor
    exact ⟨fun ⟨_, hp'⟩ => absurd (hp.unique hp').1 ha.ne_nil, fun _ => rfl⟩

/-- An empty numeral is never what is wrong with a major part. -/
theorem not_misread_empty_of_ne_nil {cs : List Char} (h : cs ≠ []) : ¬ Misread cs .empty := by
  intro hd
  cases hd with
  | empty => exact h rfl

/-- Refusals are diagnosed exactly. A text is refused exactly on one of three grounds, with the
wording and the causes of that ground and of no other; without one of them it is read. The cause
under a wording is the defect of the part concerned: every text that is no octet has one, by its
longest run of digits, which is what reading that text reports. A major part is never reported as an
empty numeral. -/
theorem parse_eq_error_iff_rejection (text : String) :
    (∀ message causes,
      (∃ fault, parse text = .error fault ∧ fault.message = message ∧ fault.causes = causes) ↔
        Rejection text message causes) ∧
    (∀ message message' causes causes', Rejection text message causes →
      Rejection text message' causes' → message = message' ∧ causes = causes') ∧
    ((¬ ∃ message causes, Rejection text message causes) → ∃ v, parse text = .ok v) ∧
    (∀ cs d, Numeral.readOctet cs = .error d ↔ Misread cs d) ∧
    (∀ cs, (∃ d, Misread cs d) ↔ ¬ IsOctet cs) ∧
    (∀ causes, Rejection text "failed to parse major version" causes →
      causes ≠ [.numeral .empty]) := by
  refine ⟨rejection_iff text, fun _ _ _ _ => Rejection.unique, ?_, Numeral.readOctet_eq_error_iff,
    Numeral.exists_misread_iff, ?_⟩
  · intro hno
    cases hparse : parse text with
    | ok v => exact ⟨v, rfl⟩
    | error fault => exact absurd ⟨_, _, (rejection_iff text _ _).1 ⟨fault, hparse, rfl, rfl⟩⟩ hno
  · -- The wording tells the ground, and a major part under it is not empty.
    rintro causes h rfl
    generalize hm : "failed to parse major version" = message at h
    cases h with
    | majorUnreadable _ hne _ hd => exact not_misread_empty_of_ne_nil hne hd
    | minorUnreadable _ _ _ _ => simp at hm

/-- Control: the first ground is the one reported, and the text is quoted with its blanks. -/
example :
    parse " .x " = .error (.stated (.versionMissing " .x ")) ∧
      parse "300.x" = .error (.wrapped .majorUnreadable (.numeral .tooLarge)) ∧
      parse "3." = .error (.wrapped .minorUnreadable (.numeral .empty)) := by
  decide +kernel

end TypeSlots.Version
