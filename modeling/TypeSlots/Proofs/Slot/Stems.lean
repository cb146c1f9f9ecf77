import TypeSlots.Proofs.Lookup.Search
import TypeSlots.Proofs.Slot.LastSettings
import TypeSlots.Slot.Table

/-!
# Stems of pointers and opcodes

Two things about a slot are told by what a name starts with. The suite is that of the one stem with
which the pointer starts: all stems have three characters, so no text starts with two of them
(`Suite.eq_of_startsWith`), and the stems may be tried in any order. The operator is the opcode
without one leading `BINARY_` (`Slot.operatorOf_eq_iff`), so two opcodes have one operator only if
one of them is the other with this stem in front of it (`Slot.operatorOf_eq_operatorOf_iff`).
-/

set_option autoImplicit false

namespace TypeSlots

namespace Text

/-- A text is a stem and what comes after it. -/
def StartsWith (text stem : String) : Prop :=
  ∃ rest, text = stem ++ rest

theorem isPrefixOf_toList_iff (stem text : String) :
    stem.toList.isPrefixOf text.toList = true ↔ StartsWith text stem := by
  rw [List.isPrefixOf_iff_prefix]
  constructor
  · rintro ⟨rest, h⟩
    refine ⟨String.ofList rest, String.toList_inj.1 ?_⟩
    rw [String.toList_append, String.toList_ofList, h]
  · rintro ⟨rest, rfl⟩
    rw [String.toList_append]
    exact List.prefix_append _ _

instance (text stem : String) : Decidable (StartsWith text stem) :=
  decidable_of_iff _ (isPrefixOf_toList_iff stem text)

theorem StartsWith.append {text stem : String} (h : StartsWith text stem) (more : String) :
    StartsWith (text ++ more) stem := by
  obtain ⟨rest, rfl⟩ := h
  exact ⟨rest ++ more, String.append_assoc⟩

/-- A text starts with one stem of a length at most. -/
theorem StartsWith.unique {text s t : String} (hs : StartsWith text s) (ht : StartsWith text t)
    (hlength : s.length = t.length) : s = t := by
  obtain ⟨rest, rfl⟩ := hs
  obtain ⟨rest', h⟩ := ht
  have happend := congrArg String.toList h
  rw [String.toList_append, String.toList_append] at happend
  rw [← String.length_toList, ← String.length_toList] at hlength
  exact String.toList_inj.1 (List.append_inj_left happend hlength)

end Text

open Text (StartsWith isPrefixOf_toList_iff)

/-! ## The suite of a pointer -/

namespace Suite

theorem mem_all (s : Suite) : s ∈ all := by
  cases s <;> decide

theorem length_stem (s : Suite) : s.stem.length = 3 := by
  cases s <;> rfl

theorem stem_injective : Function.Injective stem := by
  intro s t
  cases s <;> cases t <;> decide

/-- A suite claims the pointers that start with its stem. -/
theorem claims_iff (s : Suite) (pointer : String) :
    s.claims pointer = true ↔ StartsWith pointer s.stem :=
  isPrefixOf_toList_iff s.stem pointer

/-- A pointer starts with one stem at most. -/
theorem eq_of_startsWith {pointer : String} {s t : Suite} (hs : StartsWith pointer s.stem)
    (ht : StartsWith pointer t.stem) : s = t :=
  stem_injective (hs.unique ht ((length_stem s).trans (length_stem t).symm))

theorem eq_of_claims (pointer : String) (s : Suite) (_ : s ∈ all) (t : Suite) (_ : t ∈ all)
    (hs : s.claims pointer = true) (ht : t.claims pointer = true) : s = t :=
  eq_of_startsWith ((claims_iff s pointer).1 hs) ((claims_iff t pointer).1 ht)

theorem ofPointer?_eq_some_iff (pointer : String) (s : Suite) :
    ofPointer? pointer = some s ↔ StartsWith pointer s.stem := by
  rw [ofPointer?, Lookup.find?_eq_some_iff_of_unique (eq_of_claims pointer), claims_iff]
  exact and_iff_right (mem_all s)

theorem ofPointer?_eq_none_iff (pointer : String) :
    ofPointer? pointer = none ↔ ∀ s : Suite, ¬ StartsWith pointer s.stem := by
  simp only [Option.eq_none_iff_forall_ne_some, ne_eq, ofPointer?_eq_some_iff]

/-- The stem tells the suite. A pointer is one of a suite exactly if it starts with the stem of
this suite, and of none if it starts with no stem. No pointer starts with two stems, so the suites
may be tried in any order, and a longer name has the suite of its beginning. The suite of a slot is
that of the pointer in its recipe, after every setting. -/
theorem suite_told_by_stem (pointer : String) :
    (∀ s, ofPointer? pointer = some s ↔ StartsWith pointer s.stem) ∧
    (ofPointer? pointer = none ↔ ∀ s : Suite, ¬ StartsWith pointer s.stem) ∧
    (∀ s t : Suite, StartsWith pointer s.stem → StartsWith pointer t.stem → s = t) ∧
    (∀ order : List Suite, order.Perm all →
      (order.find? fun s => s.claims pointer) = ofPointer? pointer) ∧
    (∀ s more, ofPointer? pointer = some s → ofPointer? (pointer ++ more) = some s) ∧
    (∀ r : Recipe Signature Availability, r.pointer = pointer →
      r.build.suite? = ofPointer? pointer ∧ ∀ s ∈ r.states, s.suite? = ofPointer? pointer) := by
  refine ⟨ofPointer?_eq_some_iff pointer, ofPointer?_eq_none_iff pointer, ?_, ?_, ?_, ?_⟩
  · intro s t hs ht
    exact eq_of_startsWith hs ht
  · intro order hperm
    exact Lookup.find?_eq_of_perm hperm (eq_of_claims pointer)
  · intro s more hs
    rw [ofPointer?_eq_some_iff] at hs ⊢
    exact hs.append more
  · rintro r rfl
    refine ⟨r.makes_build.suite?, ?_⟩
    intro s hs
    obtain ⟨done, rest, -, hmakes⟩ := Recipe.exists_makes_of_mem_states hs
    exact hmakes.suite?

/-- A pointer of the number suite, with the suites tried from the last to the first, with a longer
name, and in a recipe that sets every field. -/
theorem suite_told_by_stem_of_inplace_add :
    StartsWith "nb_inplace_add" number.stem ∧
      ([mapping, sequence, number, typeObject].find? fun s => s.claims "nb_inplace_add") =
        some .number ∧
      ofPointer? ("nb_inplace_add" ++ "_tp_") = some .number ∧
      let r : Recipe Signature Availability := ⟨"__iadd__", "nb_inplace_add", .binary,
        [.index 1, .opcode "INPLACE_ADD", .availability .python3]⟩
      r.build.suite? = some .number ∧ ∀ s ∈ r.states, s.suite? = some .number := by
  obtain ⟨htold, -, -, horder, hmore, hrecipe⟩ := suite_told_by_stem "nb_inplace_add"
  have hstem : StartsWith "nb_inplace_add" number.stem := ⟨"inplace_add", by decide⟩
  have hsuite : ofPointer? "nb_inplace_add" = some .number := (htold .number).2 hstem
  refine ⟨hstem, (horder _ (by decide)).trans hsuite, hmore .number "_tp_" hsuite, ?_⟩
  obtain ⟨hbuild, hstates⟩ := hrecipe ⟨"__iadd__", "nb_inplace_add", .binary,
    [.index 1, .opcode "INPLACE_ADD", .availability .python3]⟩ rfl
  rw [hsuite] at hbuild hstates
  exact ⟨hbuild, hstates⟩

end Suite

/-! ## The operator of an opcode -/

namespace Slot

theorem binaryStem_eq_toList : binaryStem = "BINARY_".toList :=
  rfl

theorem isPrefixOf_binaryStem_iff (opcode : String) :
    binaryStem.isPrefixOf opcode.toList = true ↔ StartsWith opcode "BINARY_" :=
  isPrefixOf_toList_iff "BINARY_" opcode

/-- One stem is taken off, whatever comes after it. -/
theorem operatorOf_append (rest : String) : operatorOf ("BINARY_" ++ rest) = rest := by
  rw [operatorOf, if_pos ((isPrefixOf_binaryStem_iff _).2 ⟨rest, rfl⟩), String.toList_append,
    binaryStem_eq_toList, List.drop_left, String.ofList_toList]

/-- An opcode without a stem is its own operator. -/
theorem operatorOf_of_not_startsWith {opcode : String} (h : ¬ StartsWith opcode "BINARY_") :
    operatorOf opcode = opcode :=
  if_neg fun hstarts => h ((isPrefixOf_binaryStem_iff opcode).1 hstarts)

/-- The operator of an opcode is what follows one leading stem, or the opcode without one. -/
theorem operatorOf_eq_iff (opcode operator : String) :
    operatorOf opcode = operator ↔
      opcode = "BINARY_" ++ operator ∨ opcode = operator ∧ ¬ StartsWith opcode "BINARY_" := by
  by_cases h : StartsWith opcode "BINARY_"
  · obtain ⟨rest, rfl⟩ := h
    rw [operatorOf_append]
    constructor
    · rintro rfl
      exact Or.inl rfl
    · rintro (heq | ⟨-, hnot⟩)
      · exact (String.append_right_inj "BINARY_").1 heq
      · exact absurd ⟨rest, rfl⟩ hnot
  · rw [operatorOf_of_not_startsWith h]
    constructor
    · intro heq
      exact Or.inr ⟨heq, h⟩
    · rintro (rfl | ⟨heq, -⟩)
      · exact absurd ⟨operator, rfl⟩ h
      · exact heq

/-- Two opcodes have one operator only if one is the other with one more stem in front. The
other then has no stem, as only one is taken off. -/
theorem operatorOf_eq_operatorOf_iff {a b : String} (h : a ≠ b) :
    operatorOf a = operatorOf b ↔
      a = "BINARY_" ++ b ∧ ¬ StartsWith b "BINARY_" ∨
        b = "BINARY_" ++ a ∧ ¬ StartsWith a "BINARY_" := by
  by_cases hb : StartsWith b "BINARY_"
  · obtain ⟨rest, rfl⟩ := hb
    rw [operatorOf_append, operatorOf_eq_iff]
    constructor
    · rintro (heq | ⟨rfl, hnot⟩)
      · exact absurd heq h
      · exact Or.inr ⟨rfl, hnot⟩
    · rintro (⟨-, hnot⟩ | ⟨heq, hnot⟩)
      · exact absurd ⟨rest, rfl⟩ hnot
      · have hrest : rest = a := (String.append_right_inj "BINARY_").1 heq
        exact Or.inr ⟨hrest.symm, hnot⟩
  · rw [operatorOf_of_not_startsWith hb, operatorOf_eq_iff]
    constructor
    · rintro (heq | ⟨heq, -⟩)
      · exact Or.inl ⟨heq, hb⟩
      · exact absurd heq h
    · rintro (⟨heq, -⟩ | ⟨heq, -⟩)
      · exact Or.inl heq
      · exact absurd ⟨a, heq⟩ hb

theorem operator?_eq_some_iff (s : Slot) (operator : String) :
    s.operator? = some operator ↔ ∃ opcode, s.opcode = some opcode ∧
      (opcode = "BINARY_" ++ operator ∨ opcode = operator ∧ ¬ StartsWith opcode "BINARY_") := by
  rw [Slot.operator?, Option.map_eq_some_iff]
  simp only [operatorOf_eq_iff]

/-- No opcode of the standard table is another one with a stem in front. -/
theorem binary_append_notMem_table :
    ∀ opcode ∈ table.filterMap Slot.opcode,
      "BINARY_" ++ opcode ∉ table.filterMap Slot.opcode := by
  decide +kernel

/-- Slots of the standard table with two opcodes have two operators. -/
theorem operator?_ne_of_mem_table {s t : Slot} (hs : s ∈ table) (ht : t ∈ table) {a b : String}
    (ha : s.opcode = some a) (hb : t.opcode = some b) (hne : a ≠ b) :
    s.operator? ≠ t.operator? := by
  have hmema : a ∈ table.filterMap Slot.opcode := List.mem_filterMap.2 ⟨s, hs, ha⟩
  have hmemb : b ∈ table.filterMap Slot.opcode := List.mem_filterMap.2 ⟨t, ht, hb⟩
  intro heq
  rw [Slot.operator?, Slot.operator?, ha, hb] at heq
  rcases (operatorOf_eq_operatorOf_iff hne).1 (Option.some.inj heq) with ⟨rfl, -⟩ | ⟨rfl, -⟩
  · exact binary_append_notMem_table b hmemb hmema
  · exact binary_append_notMem_table a hmema hmemb

/-- Opcodes share an operator only by one stem. Slots with two opcodes have one operator exactly
if one of the opcodes is the other with `BINARY_` in front, and the other has no such stem itself. A
slot has an operator exactly if it has an opcode, which is the operator with one stem in front, or
the operator itself where the opcode has no stem. In the standard table no two opcodes share an
operator. -/
theorem operators_shared_by_one_stem :
    (∀ (s t : Slot) (a b : String), s.opcode = some a → t.opcode = some b → a ≠ b →
      (s.operator? = t.operator? ↔
        a = "BINARY_" ++ b ∧ ¬ StartsWith b "BINARY_" ∨
          b = "BINARY_" ++ a ∧ ¬ StartsWith a "BINARY_")) ∧
    (∀ (s : Slot) (operator : String), s.operator? = some operator ↔
      ∃ opcode, s.opcode = some opcode ∧ (opcode = "BINARY_" ++ operator ∨
        opcode = operator ∧ ¬ StartsWith opcode "BINARY_")) ∧
    (∀ s : Slot, (∃ operator, s.operator? = some operator) ↔
      ∃ opcode, s.opcode = some opcode) ∧
    (∀ s ∈ table, ∀ t ∈ table, ∀ a b, s.opcode = some a → t.opcode = some b → a ≠ b →
      s.operator? ≠ t.operator?) := by
  refine ⟨?_, operator?_eq_some_iff, ?_, ?_⟩
  · intro s t a b ha hb hne
    rw [Slot.operator?, Slot.operator?, ha, hb, Option.map_some, Option.map_some,
      Option.some.injEq]
    exact operatorOf_eq_operatorOf_iff hne
  · intro s
    rw [Slot.operator?]
    cases s.opcode <;> simp
  · intro s hs t ht a b ha hb hne
    exact operator?_ne_of_mem_table hs ht ha hb hne

/-- One stem in front makes no other operator; a second one does, as only one is taken off. -/
theorem operators_shared_by_one_stem_of_add :
    let slot (opcode : String) := (plain "__add__" "nb_add" .binaryNumber).withOpcode opcode
    "BINARY_ADD" ≠ "ADD" ∧ (slot "BINARY_ADD").operator? = (slot "ADD").operator? ∧
      "BINARY_BINARY_ADD" ≠ "BINARY_ADD" ∧
      (slot "BINARY_BINARY_ADD").operator? ≠ (slot "BINARY_ADD").operator? := by
  intro slot
  have hshared := operators_shared_by_one_stem.1
  have hone : "BINARY_ADD" ≠ "ADD" := by decide
  have htwo : "BINARY_BINARY_ADD" ≠ "BINARY_ADD" := by decide
  refine ⟨hone, ?_, htwo, ?_⟩
  · exact (hshared (slot "BINARY_ADD") (slot "ADD") _ _ rfl rfl hone).2
      (Or.inl ⟨by decide, by decide +kernel⟩)
  · intro heq
    have hcases := (hshared (slot "BINARY_BINARY_ADD") (slot "BINARY_ADD") _ _ rfl rfl htwo).1 heq
    revert hcases
    decide +kernel

end Slot

end TypeSlots
