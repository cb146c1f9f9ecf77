import TypeSlots.Slot.Table
import TypeSlots.Proofs.Dispatch.Operators
import TypeSlots.Proofs.MethodIndex.Grouping

/-!
# From an operator to all its slots

An operator leads to a method, and the method to its slots in the index. Every slot that the
operator calls is reached in this way exactly when the slots of an operator agree on their method
(`losesNoSlot_iff`): the map of operators keeps the method of the last slot only, so a slot with
another method is behind a method that the operator does not lead to. In the standard table
operators and methods determine each other (`operator?_eq_iff_method_eq`), so nothing is lost there.
-/

set_option autoImplicit false

namespace TypeSlots.Dispatch

open MethodIndex

/-- Every slot that an operator calls is in the index under the method of the operator. -/
def LosesNoSlot (table : List Slot) : Prop :=
  ∀ operator, ∀ s ∈ table, s.operator? = some operator →
    ∃ method, (operators table).value.find? operator = some method ∧
      s ∈ (build table).value.lookup method

/-- The slots that an operator calls have one method. -/
def MethodsAgree (table : List Slot) : Prop :=
  ∀ s ∈ table, ∀ t ∈ table, ∀ operator,
    s.operator? = some operator → t.operator? = some operator → s.method = t.method

/-! ## The method of an operator -/

/-- The method of an operator is that of its last slot. -/
theorem find?_operators (table : List Slot) (operator : String) :
    (operators table).value.find? operator = (lastCaller? table operator).map Slot.method :=
  (entered_foldl table).find? operator

/-- An operator without slots has no method. -/
theorem find?_operators_eq_none_iff (table : List Slot) (operator : String) :
    (operators table).value.find? operator = none ↔
      ¬ ∃ s ∈ table, s.operator? = some operator := by
  rw [find?_operators, Option.map_eq_none_iff, lastCaller?_eq_none_iff]

theorem mem_of_lastCaller? {table : List Slot} {operator : String} {s : Slot}
    (h : lastCaller? table operator = some s) : s ∈ table ∧ s.operator? = some operator := by
  have hmem : s ∈ callers table operator := List.mem_of_getLast? h
  obtain ⟨hs, hop⟩ := List.mem_filter.1 hmem
  exact ⟨hs, by simpa using hop⟩

/-- The method of an operator is that of one of its slots. -/
theorem exists_of_find?_operators {table : List Slot} {operator method : String}
    (h : (operators table).value.find? operator = some method) :
    ∃ s ∈ table, s.operator? = some operator ∧ s.method = method := by
  rw [find?_operators] at h
  obtain ⟨s, hlast, hmethod⟩ := Option.map_eq_some_iff.1 h
  obtain ⟨hs, hop⟩ := mem_of_lastCaller? hlast
  exact ⟨s, hs, hop, hmethod⟩

/-- Where methods agree, every slot of an operator has its method. -/
theorem MethodsAgree.find?_operators {table : List Slot} (h : MethodsAgree table) {s : Slot}
    (hs : s ∈ table) {operator : String} (hop : s.operator? = some operator) :
    (operators table).value.find? operator = some s.method := by
  obtain ⟨last, hlast⟩ := (exists_lastCaller?_iff table operator).2 ⟨s, hs, hop⟩
  obtain ⟨hmem, hop'⟩ := mem_of_lastCaller? hlast
  rw [Dispatch.find?_operators, hlast, Option.map_some, h last hmem s hs operator hop' hop]

/-! ## From the method to the slots -/

/-- No slot is lost exactly when the slots of an operator agree on their method. -/
theorem losesNoSlot_iff (table : List Slot) : LosesNoSlot table ↔ MethodsAgree table := by
  constructor
  · intro h s hs t ht operator hsop htop
    obtain ⟨method, hfind, hmem⟩ := h operator s hs hsop
    obtain ⟨method', hfind', hmem'⟩ := h operator t ht htop
    obtain rfl : method = method' := Option.some.inj (hfind.symm.trans hfind')
    exact ((mem_lookup_build table method s).1 hmem).2.trans
      ((mem_lookup_build table method t).1 hmem').2.symm
  · intro h operator s hs hop
    exact ⟨s.method, h.find?_operators hs hop, (mem_lookup_build table s.method s).2 ⟨hs, rfl⟩⟩

/-! ## The standard table -/

/-- In the standard table two slots have one operator exactly when they have one method. -/
theorem operator?_eq_iff_method_eq :
    ∀ s ∈ Slot.table.filter fun s => s.opcode.isSome,
      ∀ t ∈ Slot.table.filter fun t => t.opcode.isSome,
        s.operator? = t.operator? ↔ s.method = t.method := by
  decide +kernel

/-- A slot with an operator is one of those with an opcode. -/
theorem mem_filter_opcode {table : List Slot} {s : Slot} (hs : s ∈ table) {operator : String}
    (hop : s.operator? = some operator) : s ∈ table.filter fun s => s.opcode.isSome := by
  rw [List.mem_filter, isSome_opcode, hop]
  exact ⟨hs, rfl⟩

theorem methodsAgree_table : MethodsAgree Slot.table := by
  intro s hs t ht operator hsop htop
  have hs' := mem_filter_opcode hs hsop
  have ht' := mem_filter_opcode ht htop
  exact (operator?_eq_iff_method_eq s hs' t ht').1 (hsop.trans htop.symm)

/-- In the standard table no two operators lead to one method. -/
theorem operator_eq_of_find?_eq {a b method : String}
    (ha : (operators Slot.table).value.find? a = some method)
    (hb : (operators Slot.table).value.find? b = some method) : a = b := by
  obtain ⟨s, hs, hsop, hsm⟩ := exists_of_find?_operators ha
  obtain ⟨t, ht, htop, htm⟩ := exists_of_find?_operators hb
  have heq : s.operator? = t.operator? :=
    (operator?_eq_iff_method_eq s (mem_filter_opcode hs hsop) t (mem_filter_opcode ht htop)).2
      (hsm.trans htm.symm)
  rw [hsop, htop] at heq
  exact Option.some.inj heq

/-- Dispatch loses no slot. A table loses no slot exactly when the slots of an operator agree on
their method. In the standard table they do: an operator without slots has no method, one with slots
has a method under which the index holds them all, and two operators never have the same method. -/
theorem dispatch_loses_no_slot :
    (∀ table, LosesNoSlot table ↔ MethodsAgree table) ∧
    MethodsAgree Slot.table ∧
    (∀ operator, (¬ ∃ s ∈ Slot.table, s.operator? = some operator) →
      (operators Slot.table).value.find? operator = none) ∧
    (∀ operator, (∃ s ∈ Slot.table, s.operator? = some operator) →
      ∃ method, (operators Slot.table).value.find? operator = some method ∧
        ∀ s ∈ Slot.table, s.operator? = some operator →
          s ∈ (build Slot.table).value.lookup method) ∧
    (∀ a b method, (operators Slot.table).value.find? a = some method →
      (operators Slot.table).value.find? b = some method → a = b) := by
  refine ⟨losesNoSlot_iff, methodsAgree_table, ?_, ?_, fun a b method => operator_eq_of_find?_eq⟩
  · intro operator
    exact (find?_operators_eq_none_iff Slot.table operator).2
  · rintro operator ⟨s, hs, hop⟩
    refine ⟨s.method, methodsAgree_table.find?_operators hs hop, ?_⟩
    intro t ht htop
    have hmethod : t.method = s.method := methodsAgree_table t ht s hs operator htop hop
    exact (mem_lookup_build Slot.table s.method t).2 ⟨ht, hmethod⟩

/-- Control: an operator whose last slot has another method loses the slots before it. -/
example :
    let add (method pointer : String) :=
      (Slot.plain method pointer .binary).withOpcode "BINARY_ADD"
    let table := [add "a" "p", add "b" "q"]
    (operators table).value.find? "ADD" = some "b" ∧
      (build table).value.lookup "b" = [add "b" "q"] := by
  decide +kernel

end TypeSlots.Dispatch
