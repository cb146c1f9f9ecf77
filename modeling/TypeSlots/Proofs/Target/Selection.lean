import TypeSlots.Slot.Table
import TypeSlots.Target
import TypeSlots.Proofs.Text.Encoding
import TypeSlots.Proofs.Version.Rejection

/-!
# What the target variable selects

`Selection value target used` lists the four ways in which the value of the target variable decides
the target version and the slots to use, with the faults and the events that come with each: unset,
octets that are no text, a text that is no version, a version. Every environment is in one of them.
The target is read from the value alone (`ofValue_of_read_error`, `ofValue_of_read_ok`), and the
slots follow the target (`slots_eq`).
-/

set_option autoImplicit false

namespace TypeSlots.Target

/-- The target version and the slots to use, with their events, by the value of the target
variable. -/
inductive Selection : Option (List UInt8) → Logged (Except Fault (Option Version)) →
    Logged (Except Fault (List Slot)) → Prop
  /-- Without a value there is no target, and all slots are used. -/
  | unset : Selection none ⟨.ok none, []⟩ ⟨.ok Slot.table, []⟩
  /-- A value that no text is encoded by is refused without a cause. -/
  | notText {octets : List UInt8} {fault : Fault} :
    (¬ ∃ text : String, octets = Text.utf8 text.toList) →
    fault.message = "PYSLOTS_PYTHON_VERSION is not valid unicode: " ++ Text.quotedOctets octets →
    fault.causes = [] →
      Selection (some octets) ⟨.error fault, []⟩ ⟨.error fault, []⟩
  /-- A text that is refused as a version is refused as a target, with the fault it was refused
  with as the cause. -/
  | unreadable {text : String} {fault cause : Fault} :
    Version.parse text = .error cause →
    fault.message = "failed to parse PYSLOTS_PYTHON_VERSION=`" ++ text ++ "`" →
    fault.causes = cause :: cause.causes →
    ((∃ minor?, Version.Parts text [] minor?) → fault.causes.length = 1) →
    ((¬ ∃ minor?, Version.Parts text [] minor?) → fault.causes.length = 2) →
      Selection (some (Text.utf8 text.toList)) ⟨.error fault, []⟩ ⟨.error fault, []⟩
  /-- A version is the target, and the slots that exist in its major version are used, each once and
  in the order of the table; the one event says which version it is. -/
  | chosen {text : String} {v : Version} {used : List Slot} {event : Event} :
    Version.parse text = .ok v →
    used.Sublist Slot.table → used.Nodup →
    (∀ s, s ∈ used ↔ s ∈ Slot.table ∧ (s.availability = .python2 → v.major = 2) ∧
      (s.availability = .python3 → v.major = 3)) →
    event.level = .debug →
    event.message = "target python version " ++ v.text ++ " from PYSLOTS_PYTHON_VERSION" →
      Selection (some (Text.utf8 text.toList)) ⟨.ok (some v), [event]⟩ ⟨.ok used, [event]⟩

/-! ## The slots of a major version -/

/-- A slot that is not for one major version only is in every version. -/
theorem admits_iff (a : Availability) (major : UInt8) :
    a.admits major = true ↔ (a = .python2 → major = 2) ∧ (a = .python3 → major = 3) := by
  cases a <;> simp [Availability.admits]

theorem mem_inMajor (table : List Slot) (major : UInt8) (s : Slot) :
    s ∈ Lookup.inMajor table major ↔
      s ∈ table ∧ (s.availability = .python2 → major = 2) ∧
        (s.availability = .python3 → major = 3) := by
  rw [Lookup.inMajor, List.mem_filter, admits_iff]

theorem inMajor_sublist (table : List Slot) (major : UInt8) :
    (Lookup.inMajor table major).Sublist table :=
  List.filter_sublist

/-! ## The value of the variable -/

/-- The environment in which the target variable has a value, and no other variable is set. -/
def withValue (octets : List UInt8) : Environment :=
  Environment.empty.set Environment.targetVariable octets

theorem get?_withValue (octets : List UInt8) :
    (withValue octets).get? Environment.targetVariable = some octets := by
  rw [withValue, Environment.get?_set, if_pos rfl]

theorem read_of_not_text {octets : List UInt8}
    (h : ¬ ∃ text : String, octets = Text.utf8 text.toList) :
    read octets = .error (.stated (.targetNotText octets)) := by
  rw [read, (Text.text?_eq_none_iff octets).2 h]

theorem read_utf8 (text : String) :
    read (Text.utf8 text.toList) = Fault.explain (.targetUnreadable text) (Version.parse text) := by
  rw [read, Text.text?_utf8]
  exact Fault.run_explainWith _ _

/-- A value without a version gives neither a target nor slots, and no event. -/
theorem ofValue_of_read_error {octets : List UInt8} {fault : Fault}
    (h : read octets = .error fault) : ofValue (some octets) = ⟨.error fault, []⟩ := by
  simp only [ofValue, h]
  rfl

theorem ofValue_of_read_ok {octets : List UInt8} {v : Version} (h : read octets = .ok v) :
    ofValue (some octets) = ⟨.ok (some v), [.targetChosen v]⟩ := by
  simp only [ofValue, h]
  rfl

/-- The event names the version in its canonical form, and the variable. -/
theorem message_targetChosen (v : Version) :
    (Event.targetChosen v).message =
      "target python version " ++ v.text ++ " from PYSLOTS_PYTHON_VERSION" := by
  have hend : " from " ++ Environment.targetVariable = " from PYSLOTS_PYTHON_VERSION" := rfl
  show "target python version " ++ v.text ++ " from " ++ Environment.targetVariable = _
  rw [String.append_assoc, hend]

/-- The slots to use follow the target: its fault if there is one, and its events. -/
theorem slots_eq (table : List Slot) (env : Environment) :
    slots table env =
      ⟨(version env).value.map (select table), (version env).events⟩ := rfl

/-- The value of the target variable decides in which of the four ways the target and the slots are
found. -/
theorem selection_ofValue (value : Option (List UInt8)) :
    Selection value (ofValue value)
      ⟨(ofValue value).value.map (select Slot.table), (ofValue value).events⟩ := by
  cases value with
  | none => exact .unset
  | some octets =>
    by_cases htext : ∃ text : String, octets = Text.utf8 text.toList
    · obtain ⟨text, rfl⟩ := htext
      cases hparse : Version.parse text with
      | error cause =>
        have hread :
            read (Text.utf8 text.toList) = .error (.wrapped (.targetUnreadable text) cause) := by
          rw [read_utf8, hparse]
          rfl
        obtain ⟨hmissing, hpresent⟩ := Version.length_causes_of_parse hparse
        rw [ofValue_of_read_error hread]
        refine .unreadable hparse rfl rfl ?_ ?_
        · intro h
          simp [Fault.causes, hmissing h]
        · intro h
          simp [Fault.causes, hpresent h]
      | ok v =>
        have hread : read (Text.utf8 text.toList) = .ok v := by
          rw [read_utf8, hparse]
          rfl
        rw [ofValue_of_read_ok hread]
        exact .chosen hparse (inMajor_sublist _ _)
          (Slot.nodup_table.sublist (inMajor_sublist _ _)) (mem_inMajor _ _) rfl
          (message_targetChosen v)
    · rw [ofValue_of_read_error (read_of_not_text htext)]
      exact .notText htext rfl rfl

/-- The target variable alone selects the target version and the slots. For every environment both
calls end in the same one of four ways, which the value of the variable decides. -/
theorem selection_of_environment (env : Environment) :
    Selection (env.get? Environment.targetVariable) (version env) (slots Slot.table env) := by
  rw [slots_eq, version]
  exact selection_ofValue _

end TypeSlots.Target
