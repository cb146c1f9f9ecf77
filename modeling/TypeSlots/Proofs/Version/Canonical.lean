import TypeSlots.Proofs.Fault.Leftmost
import TypeSlots.Proofs.Numeral.Canonical
import TypeSlots.Proofs.Version.Grammar

/-!
# The canonical text of a version

Of the texts that are read as a version exactly one is canonical: two canonical numerals with a
point between them. It is the text that is written for the version (`eq_text_iff`). Writing and
reading are inverse to each other on these texts, and reading any other accepted text and writing
the version again gives the canonical one.
-/

set_option autoImplicit false

namespace TypeSlots.Version

open Text (Trimmed)

/-- A text is two canonical numerals with a point between them. -/
def IsCanonical (text : String) : Prop :=
  ∃ major minor, text.toList = major ++ '.' :: minor ∧
    Numeral.Canonical major ∧ Numeral.Canonical minor

theorem toList_text (v : Version) :
    v.text.toList = Numeral.decimal v.major.toNat ++ '.' :: Numeral.decimal v.minor.toNat :=
  String.toList_ofList

/-- What is written for a version is canonical. -/
theorem isCanonical_text (v : Version) : IsCanonical v.text :=
  ⟨_, _, toList_text v, Numeral.canonical_decimal _, Numeral.canonical_decimal _⟩

/-! ## Reading canonical texts -/

/-- A version text has no blanks to take off. -/
theorem Names.trimmed {t : List Char} {m n : Nat} (h : Names t m n) : Trimmed t t where
  cut := ⟨[], [], by simp, by simp, by simp⟩
  head c hc := (h.isVersionChar c (List.mem_of_mem_head? hc)).plain.1
  last c hc := (h.isVersionChar c (List.mem_of_mem_getLast? hc)).plain.1

/-- A text that names two numbers is read as the version with these numbers and as no other. -/
theorem parse_eq_ok_iff_names {text : String} {m n : Nat} (h : Names text.toList m n)
    (v : Version) : parse text = .ok v ↔ v.major.toNat = m ∧ v.minor.toNat = n := by
  rw [parse_eq_ok_iff]
  constructor
  · rintro ⟨t, ht, hv⟩
    have heq : t = text.toList :=
      ((Text.trimmed_iff _ _).1 ht).symm.trans ((Text.trimmed_iff _ _).1 h.trimmed)
    subst heq
    exact hv.unique h
  · rintro ⟨rfl, rfl⟩
    exact ⟨text.toList, h.trimmed, h⟩

/-- The text of a version is the one canonical text that is read as it. -/
theorem eq_text_iff (text : String) (v : Version) :
    text = v.text ↔ parse text = .ok v ∧ IsCanonical text := by
  constructor
  · rintro rfl
    refine ⟨?_, isCanonical_text v⟩
    have hmajor := ((Numeral.canonical_denotes_iff _ v.major.toNat).2 rfl).2
    have hminor := ((Numeral.canonical_denotes_iff _ v.minor.toNat).2 rfl).2
    have hnames : Names v.text.toList v.major.toNat v.minor.toNat := by
      rw [toList_text]
      exact .dotted hmajor hminor
    exact (parse_eq_ok_iff_names hnames v).2 ⟨rfl, rfl⟩
  · rintro ⟨hparse, major, minor, htext, hmajor, hminor⟩
    have hnames := Names.dotted hmajor.denotes hminor.denotes
    rw [← htext] at hnames
    obtain ⟨hm, hn⟩ := (parse_eq_ok_iff_names hnames v).1 hparse
    apply String.toList_inj.1
    rw [toList_text, htext, hm, hn, hmajor.decimal_eq, hminor.decimal_eq]

/-! ## Writing and reading in turn -/

/-- A version is read again from its text. -/
theorem parse_text (v : Version) : parse v.text = .ok v :=
  ((eq_text_iff v.text v).1 rfl).1

/-- Versions with one text are one version. -/
theorem text_injective : Function.Injective text :=
  injective_of_read_write parse_text

/-- Writing and reading versions are inverse on canonical texts. A text is that of a version exactly
when it is read as the version and is canonical. So every version is read again from its text, no
two versions have one text, and the text that is written for the version of an accepted text is
canonical and stays as it is when it is read and written again. -/
theorem text_inverse_to_parse_on_canonical :
    (∀ (text : String) (v : Version), text = v.text ↔ parse text = .ok v ∧ IsCanonical text) ∧
    (∀ v : Version, parse v.text = .ok v) ∧
    (∀ v w : Version, v.text = w.text → v = w) ∧
    (∀ text canonical, (parse text).map Version.text = .ok canonical →
      IsCanonical canonical ∧ (parse canonical).map Version.text = .ok canonical) := by
  refine ⟨eq_text_iff, parse_text, fun _ _ h => text_injective h, ?_⟩
  intro text canonical h
  cases hparse : parse text with
  | error fault =>
    rw [hparse] at h
    cases h
  | ok v =>
    rw [hparse] at h
    obtain rfl : v.text = canonical := Except.ok.inj h
    refine ⟨isCanonical_text v, ?_⟩
    rw [parse_text]
    rfl

/-- A text with blanks, a sign and zeros that do not count, and the canonical text of its version.
-/
theorem canonical_text_of_padded :
    (parse " +03.010").map text = .ok "3.10" ∧
      IsCanonical "3.10" ∧ (parse "3.10").map text = .ok "3.10" := by
  have h : (parse " +03.010").map text = .ok "3.10" := by
    decide +kernel
  exact ⟨h, text_inverse_to_parse_on_canonical.2.2.2 _ _ h⟩

end TypeSlots.Version
