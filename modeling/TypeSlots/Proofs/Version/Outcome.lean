import TypeSlots.Version
import TypeSlots.Proofs.Numeral.Grammar
import TypeSlots.Proofs.Text.Trimming

/-!
# The outcomes of reading a version

`Outcome text r` lists the five ways in which the reading of a text can end, each with the condition
on the text under which it does, and `parse_eq_iff` shows that they are what `parse` does. The
conditions speak of the parts of the text (`Parts`) and of what each part is as a numeral, so every
law about accepted or refused texts is read off here.
-/

set_option autoImplicit false

namespace TypeSlots.Version

open Numeral (Denotes Misread)

/-- The part of a text before its first point, and the part after the point if there is one. -/
inductive Divided : List Char → List Char → Option (List Char) → Prop
  | whole {major : List Char} : '.' ∉ major → Divided major major none
  | point {major minor : List Char} :
    '.' ∉ major → Divided (major ++ '.' :: minor) major (some minor)

/-- The parts of a text without the blanks at either end. -/
def Parts (text : String) (major : List Char) (minor? : Option (List Char)) : Prop :=
  ∃ t, Text.Trimmed text.toList t ∧ Divided t major minor?

/-- How the reading of a text ends. -/
inductive Outcome (text : String) : Except Fault Version → Prop
  | missing {minor? : Option (List Char)} :
    Parts text [] minor? → Outcome text (.error (.stated (.versionMissing text)))
  | majorMisread {major : List Char} {minor? : Option (List Char)} {d : Numeral.Defect} :
    Parts text major minor? → major ≠ [] → Misread major d →
      Outcome text (.error (.wrapped .majorUnreadable (.numeral d)))
  | minorMisread {major minor : List Char} {a : UInt8} {d : Numeral.Defect} :
    Parts text major (some minor) → Denotes major a.toNat → Misread minor d →
      Outcome text (.error (.wrapped .minorUnreadable (.numeral d)))
  | alone {major : List Char} {a : UInt8} :
    Parts text major none → Denotes major a.toNat → Outcome text (.ok ⟨a, 0⟩)
  | both {major minor : List Char} {a b : UInt8} :
    Parts text major (some minor) → Denotes major a.toNat → Denotes minor b.toNat →
      Outcome text (.ok ⟨a, b⟩)

/-! ## Parts -/

theorem divided_splitPoint (cs : List Char) :
    Divided cs (splitPoint cs).1 (splitPoint cs).2 := by
  have hbefore : '.' ∉ cs.takeWhile (· != '.') := by
    intro hmem
    have := List.mem_takeWhile_imp hmem
    simp at this
  have hcs := List.takeWhile_append_dropWhile (p := (· != '.')) (l := cs)
  rw [splitPoint]
  cases hd : cs.dropWhile (· != '.') with
  | nil =>
    rw [hd, List.append_nil] at hcs
    rw [hcs] at hbefore ⊢
    exact .whole hbefore
  | cons c rest =>
    have hc : c = '.' := by
      have hhead := List.head?_dropWhile_not (· != '.') cs
      rw [hd] at hhead
      simpa using hhead
    rw [hd, hc] at hcs
    have hpoint : Divided (cs.takeWhile (· != '.') ++ '.' :: rest) _ (some rest) := .point hbefore
    rwa [hcs] at hpoint

theorem Divided.splitPoint_eq {cs major : List Char} {minor? : Option (List Char)}
    (h : Divided cs major minor?) : splitPoint cs = (major, minor?) := by
  have hall : ∀ {cs : List Char}, '.' ∉ cs → ∀ c ∈ cs, (c != '.') = true := by
    intro cs hcs c hc
    have hne : c ≠ '.' := fun he => hcs (he ▸ hc)
    simpa using hne
  cases h with
  | whole hmem =>
    rw [splitPoint, List.takeWhile_eq_self_iff.2 (hall hmem),
      List.dropWhile_eq_nil_iff.2 (hall hmem)]
    rfl
  | point hmem =>
    rw [splitPoint, List.takeWhile_append_of_pos (hall hmem),
      List.dropWhile_append_of_pos (hall hmem)]
    simp

/-- The parts of a text are what it is split into. -/
theorem parts_iff (text : String) (major : List Char) (minor? : Option (List Char)) :
    Parts text major minor? ↔ splitPoint (Text.trim text.toList) = (major, minor?) := by
  constructor
  · rintro ⟨t, ht, hd⟩
    rw [(Text.trimmed_iff _ _).1 ht]
    exact hd.splitPoint_eq
  · intro h
    refine ⟨_, Text.trimmed_trim _, ?_⟩
    have := divided_splitPoint (Text.trim text.toList)
    rwa [h] at this

theorem exists_parts (text : String) : ∃ major minor?, Parts text major minor? :=
  ⟨_, _, (parts_iff text _ _).2 rfl⟩

/-- A text has its parts in one way only. -/
theorem Parts.unique {text : String} {major major' : List Char}
    {minor? minor?' : Option (List Char)} (h : Parts text major minor?)
    (h' : Parts text major' minor?') : major = major' ∧ minor? = minor?' := by
  have he := ((parts_iff text _ _).1 h).symm.trans ((parts_iff text _ _).1 h')
  simpa using he

/-! ## Reading -/

theorem component_of_denotes (problem : Problem) {cs : List Char} {b : UInt8}
    (h : Denotes cs b.toNat) : component problem cs = .ok b := by
  rw [component, (Numeral.readOctet_eq_ok_iff cs b).2 h]
  rfl

theorem component_of_misread (problem : Problem) {cs : List Char} {d : Numeral.Defect}
    (h : Misread cs d) : component problem cs = .error (.wrapped problem (.numeral d)) := by
  rw [component, (Numeral.readOctet_eq_error_iff cs d).2 h]
  rfl

/-- A component is a numeral of one octet, or it has a defect. -/
theorem denotes_or_misread (cs : List Char) :
    (∃ b : UInt8, Denotes cs b.toNat) ∨ ∃ d, Misread cs d := by
  rw [← Numeral.isOctet_iff_exists_denotes, Numeral.exists_misread_iff]
  exact em _

theorem parse_of_major_nil {text : String} {minor? : Option (List Char)}
    (h : Parts text [] minor?) : parse text = .error (.stated (.versionMissing text)) := by
  rw [parse, (parts_iff text _ _).1 h]
  rfl

theorem parse_of_major_ne_nil {text : String} {major : List Char} {minor? : Option (List Char)}
    (h : Parts text major minor?) (hne : major ≠ []) :
    parse text = do
      let a ← component .majorUnreadable major
      let b ← (minor?.map (component .minorUnreadable)).getD (.ok 0)
      return ⟨a, b⟩ := by
  rw [parse, (parts_iff text _ _).1 h]
  obtain ⟨c, rest, rfl⟩ := List.exists_cons_of_ne_nil hne
  rfl

theorem Outcome.parse_eq {text : String} {r : Except Fault Version} (h : Outcome text r) :
    parse text = r := by
  cases h with
  | missing hp => exact parse_of_major_nil hp
  | majorMisread hp hne hd =>
    rw [parse_of_major_ne_nil hp hne, component_of_misread _ hd]
    rfl
  | minorMisread hp ha hd =>
    rw [parse_of_major_ne_nil hp ha.ne_nil, component_of_denotes _ ha, Option.map_some,
      component_of_misread _ hd]
    rfl
  | alone hp ha =>
    rw [parse_of_major_ne_nil hp ha.ne_nil, component_of_denotes _ ha]
    rfl
  | both hp ha hb =>
    rw [parse_of_major_ne_nil hp ha.ne_nil, component_of_denotes _ ha, Option.map_some,
      component_of_denotes _ hb]
    rfl

/-- Every text has an outcome: its parts decide, the major one first. -/
theorem exists_outcome (text : String) : ∃ r, Outcome text r := by
  obtain ⟨major, minor?, hp⟩ := exists_parts text
  -- The minor part is looked at only where the major one is a numeral.
  by_cases hne : major = []
  · subst hne
    exact ⟨_, .missing hp⟩
  · rcases denotes_or_misread major with ⟨a, ha⟩ | ⟨d, hd⟩
    · cases minor? with
      | none => exact ⟨_, .alone hp ha⟩
      | some minor =>
        rcases denotes_or_misread minor with ⟨b, hb⟩ | ⟨d, hd⟩
        · exact ⟨_, .both hp ha hb⟩
        · exact ⟨_, .minorMisread hp ha hd⟩
    · exact ⟨_, .majorMisread hp hne hd⟩

/-- Reading a text ends as its outcome says, and every text has exactly one. -/
theorem parse_eq_iff (text : String) (r : Except Fault Version) :
    parse text = r ↔ Outcome text r := by
  constructor
  · rintro rfl
    obtain ⟨r, hr⟩ := exists_outcome text
    rwa [hr.parse_eq]
  · exact Outcome.parse_eq

end TypeSlots.Version
