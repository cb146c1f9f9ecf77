import TypeSlots.Proofs.Target.Selection

/-!
# What the slots to use depend on

Of a value of the target variable that is a version, the slots to use depend on the major number
alone (`slots_of_parse`): neither the minor number nor the way in which the version is written
counts. Two major numbers agree on the slots that exist in every version and on no other
(`Availability.admits_both_iff`), so the slots used for two values differ in slots of Python 2 and
of Python 3 only (`Lookup.untagged_inMajor`).
-/

set_option autoImplicit false

namespace TypeSlots

namespace Availability

/-- Two major versions share the slots of every version and no other. -/
theorem admits_both_iff {major major' : UInt8} (h : major ≠ major') (a : Availability) :
    a.admits major = true ∧ a.admits major' = true ↔ a = .any := by
  rw [Target.admits_iff, Target.admits_iff]
  constructor
  · rintro ⟨⟨htwo, hthree⟩, htwo', hthree'⟩
    cases a with
    | python2 => exact absurd ((htwo rfl).trans (htwo' rfl).symm) h
    | python3 => exact absurd ((hthree rfl).trans (hthree' rfl).symm) h
    | any => rfl
  · rintro rfl
    simp

/-- Every slot exists in one of the two major versions that slots are made for. -/
theorem admits_two_or_three (a : Availability) : a.admits 2 = true ∨ a.admits 3 = true := by
  cases a <;> simp [Availability.admits]

end Availability

namespace Lookup

/-- The slots that are for no major version in particular. -/
def untagged (slots : List Slot) : List Slot :=
  slots.filter fun s => s.availability != .python2 && s.availability != .python3

/-! ## The slots of one major version -/

theorem inMajor_append (first last : List Slot) (major : UInt8) :
    inMajor (first ++ last) major = inMajor first major ++ inMajor last major :=
  List.filter_append ..

theorem inMajor_cons_of_admits {s : Slot} {major : UInt8} (h : s.availability.admits major = true)
    (slots : List Slot) : inMajor (s :: slots) major = s :: inMajor slots major :=
  List.filter_cons_of_pos h

theorem inMajor_cons_of_not_admits {s : Slot} {major : UInt8}
    (h : ¬ s.availability.admits major = true) (slots : List Slot) :
    inMajor (s :: slots) major = inMajor slots major :=
  List.filter_cons_of_neg h

/-- A slot between two parts of a table stands between what is found in them exactly if it exists in
the major version. -/
theorem inMajor_append_cons_iff (before : List Slot) (s : Slot) (after : List Slot)
    (major : UInt8) :
    inMajor (before ++ s :: after) major = inMajor before major ++ s :: inMajor after major ↔
      s.availability.admits major = true := by
  rw [inMajor_append, List.append_cancel_left_eq]
  constructor
  · intro heq
    by_contra hnot
    rw [inMajor_cons_of_not_admits hnot] at heq
    exact List.ne_cons_self heq
  · intro hadmits
    exact inMajor_cons_of_admits hadmits after

/-- Without the slots of one version only, every major version has the same slots. -/
theorem untagged_inMajor (table : List Slot) (major : UInt8) :
    untagged (inMajor table major) = untagged table := by
  rw [untagged, inMajor, List.filter_filter]
  apply List.filter_congr
  intro s _
  cases s.availability <;> simp [Availability.admits]

/-- In a major version other than 2 and 3 there are no slots of one version only. -/
theorem inMajor_eq_untagged {major : UInt8} (htwo : major ≠ 2) (hthree : major ≠ 3)
    (table : List Slot) : inMajor table major = untagged table := by
  apply List.filter_congr
  intro s _
  cases s.availability <;> simp [Availability.admits, htwo, hthree]

end Lookup

namespace Target

/-- The slot between two parts of a table is used in an environment: what is used of the whole is
what is used of the part before it, the slot, and what is used of the part after it. -/
def Uses (env : Environment) (before : List Slot) (s : Slot) (after : List Slot) : Prop :=
  ∃ first last, (slots before env).value = .ok first ∧ (slots after env).value = .ok last ∧
    (slots (before ++ s :: after) env).value = .ok (first ++ s :: last)

/-- For a value that is a version, the slots of its major version are used. -/
theorem slots_of_parse {env : Environment} {text : String} {v : Version}
    (hvalue : env.get? Environment.targetVariable = some (Text.utf8 text.toList))
    (hparse : Version.parse text = .ok v) (table : List Slot) :
    (slots table env).value = .ok (Lookup.inMajor table v.major) := by
  have hread : read (Text.utf8 text.toList) = .ok v := by
    rw [read_utf8, hparse]
    rfl
  rw [slots_eq, version, hvalue, ofValue_of_read_ok hread]
  rfl

theorem uses_iff {env : Environment} {text : String} {v : Version}
    (hvalue : env.get? Environment.targetVariable = some (Text.utf8 text.toList))
    (hparse : Version.parse text = .ok v) (before : List Slot) (s : Slot) (after : List Slot) :
    Uses env before s after ↔ s.availability.admits v.major = true := by
  rw [← Lookup.inMajor_append_cons_iff before s after v.major]
  have hslots := slots_of_parse hvalue hparse
  constructor
  · rintro ⟨first, last, hfirst, hlast, hwhole⟩
    rw [hslots] at hfirst hlast hwhole
    cases hfirst
    cases hlast
    exact Except.ok.inj hwhole
  · intro hwhole
    refine ⟨_, _, hslots before, hslots after, ?_⟩
    rw [hslots, hwhole]

/-- The slots to use depend on the major number only. Of two values that are versions, however they
are written, those with one major number have the same slots used, in the same order. With two major
numbers both have a slot of the table used exactly if it is for every version. Without the slots
that are for Python 2 or for Python 3 only, both lists are the same, in the same order, and are the
slots of every other major version; and of every table each slot is one of major version 2 or one of
major version 3. -/
theorem used_slots_depend_on_major_only {env env' : Environment} {text text' : String}
    {v w : Version}
    (hvalue : env.get? Environment.targetVariable = some (Text.utf8 text.toList))
    (hvalue' : env'.get? Environment.targetVariable = some (Text.utf8 text'.toList))
    (hparse : Version.parse text = .ok v) (hparse' : Version.parse text' = .ok w)
    (table : List Slot) :
    ∃ used used' : List Slot,
      (slots table env).value = .ok used ∧ (slots table env').value = .ok used' ∧
      (v.major = w.major → used = used') ∧
      (v.major ≠ w.major → ∀ before s after, table = before ++ s :: after →
        (Uses env before s after ∧ Uses env' before s after ↔ s.availability = .any)) ∧
      Lookup.untagged used = Lookup.untagged used' ∧
      (∀ major : UInt8, major ≠ 2 → major ≠ 3 →
        Lookup.inMajor table major = Lookup.untagged used) ∧
      ∀ before s after, table = before ++ s :: after →
        Lookup.inMajor table 2 = Lookup.inMajor before 2 ++ s :: Lookup.inMajor after 2 ∨
          Lookup.inMajor table 3 = Lookup.inMajor before 3 ++ s :: Lookup.inMajor after 3 := by
  refine ⟨_, _, slots_of_parse hvalue hparse table, slots_of_parse hvalue' hparse' table,
    ?_, ?_, ?_, ?_, ?_⟩
  · intro hmajor
    rw [hmajor]
  · intro hne before s after _
    rw [uses_iff hvalue hparse, uses_iff hvalue' hparse']
    exact Availability.admits_both_iff hne s.availability
  · rw [Lookup.untagged_inMajor, Lookup.untagged_inMajor]
  · intro major htwo hthree
    rw [Lookup.untagged_inMajor, Lookup.inMajor_eq_untagged htwo hthree]
  · rintro before s after rfl
    rw [Lookup.inMajor_append_cons_iff, Lookup.inMajor_append_cons_iff]
    exact Availability.admits_two_or_three s.availability

/-- A value with blanks, a sign and a zero that do not count, and another major version: of the
standard table both have the slots of every version used, and share no others. -/
theorem used_slots_of_padded_version :
    (withValue (Text.utf8 "\u2003+02.7\n".toList)).get? Environment.targetVariable =
      some (Text.utf8 "\u2003+02.7\n".toList) ∧
    (withValue (Text.utf8 "3".toList)).get? Environment.targetVariable =
      some (Text.utf8 "3".toList) ∧
    Version.parse "\u2003+02.7\n" = .ok ⟨2, 7⟩ ∧ Version.parse "3" = .ok ⟨3, 0⟩ ∧
    ∃ used used' : List Slot,
      (slots Slot.table (withValue (Text.utf8 "\u2003+02.7\n".toList))).value = .ok used ∧
      (slots Slot.table (withValue (Text.utf8 "3".toList))).value = .ok used' ∧
      (∀ before s after, Slot.table = before ++ s :: after →
        (Uses (withValue (Text.utf8 "\u2003+02.7\n".toList)) before s after ∧
          Uses (withValue (Text.utf8 "3".toList)) before s after ↔ s.availability = .any)) ∧
      Lookup.untagged used = Lookup.untagged used' := by
  have hvalue := get?_withValue (Text.utf8 "\u2003+02.7\n".toList)
  have hvalue' := get?_withValue (Text.utf8 "3".toList)
  have hparse : Version.parse "\u2003+02.7\n" = .ok ⟨2, 7⟩ := by decide +kernel
  have hparse' : Version.parse "3" = .ok ⟨3, 0⟩ := by decide +kernel
  obtain ⟨used, used', hused, hused', -, hboth, huntagged, -⟩ :=
    used_slots_depend_on_major_only hvalue hvalue' hparse hparse' Slot.table
  exact ⟨hvalue, hvalue', hparse, hparse', used, used', hused, hused', hboth (by decide),
    huntagged⟩

end Target

end TypeSlots
