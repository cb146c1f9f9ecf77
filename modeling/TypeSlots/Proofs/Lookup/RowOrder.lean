import TypeSlots.Proofs.Dispatch.Coverage
import TypeSlots.Proofs.Lookup.Reflection

/-!
# The order of the rows of a table

A scan of a table with its rows in another order finds the same slots in another order. What is
derived from a table by keeping one slot of several depends on the order in general: the map of
operators keeps the method of the last one, the search for a reflection the first one. It does not
depend on it where all that could be kept are alike: where the slots of an operator agree on their
method (`Dispatch.find?_operators_of_perm`), and where paired slots are told apart
(`reflection?_of_perm`). Both conditions speak of the slots of a table and not of their order.
-/

set_option autoImplicit false

namespace TypeSlots

variable {table other : List Slot}

namespace Dispatch

/-- Slots agree on their methods in whatever order they are listed. -/
theorem MethodsAgree.of_perm (h : MethodsAgree table) (hperm : other.Perm table) :
    MethodsAgree other := by
  intro s hs t ht operator hsop htop
  exact h s (hperm.mem_iff.1 hs) t (hperm.mem_iff.1 ht) operator hsop htop

/-- Where methods agree, the method of an operator does not depend on the order of the rows. -/
theorem find?_operators_of_perm (h : MethodsAgree table) (hperm : other.Perm table)
    (operator : String) :
    (operators other).value.find? operator = (operators table).value.find? operator := by
  by_cases hcalled : ∃ s ∈ table, s.operator? = some operator
  · obtain ⟨s, hs, hop⟩ := hcalled
    rw [h.find?_operators hs hop, (h.of_perm hperm).find?_operators (hperm.mem_iff.2 hs) hop]
  · have hcalled' : ¬ ∃ s ∈ other, s.operator? = some operator := by
      rintro ⟨s, hs, hop⟩
      exact hcalled ⟨s, hperm.mem_iff.1 hs, hop⟩
    rw [(find?_operators_eq_none_iff table operator).2 hcalled,
      (find?_operators_eq_none_iff other operator).2 hcalled']

end Dispatch

namespace Lookup

open Dispatch MethodIndex

/-! ## Scans -/

theorem ofMethod_perm (hperm : other.Perm table) (method : String) :
    (ofMethod other method).Perm (ofMethod table method) :=
  hperm.filter _

theorem ofPointer_perm (hperm : other.Perm table) (pointer : String) :
    (ofPointer other pointer).Perm (ofPointer table pointer) :=
  hperm.filter _

theorem lookup_build_perm (hperm : other.Perm table) (method : String) :
    ((build other).value.lookup method).Perm ((build table).value.lookup method) := by
  rw [lookup_build, lookup_build]
  exact ofMethod_perm hperm method

theorem contains_build_of_perm (hperm : other.Perm table) (method : String) :
    (build other).value.contains method = (build table).value.contains method := by
  have hnil : ofMethod other method = [] ↔ ofMethod table method = [] := by
    rw [← List.length_eq_zero_iff, ← List.length_eq_zero_iff,
      (ofMethod_perm hperm method).length_eq]
  rw [Bool.eq_iff_iff, contains_build_iff, contains_build_iff]
  exact not_congr hnil

/-! ## Reflections -/

/-- Slots that differ in a field do so in either order. -/
theorem paired_ne_comm {β : Type} (f : Slot → β) {s t : Slot}
    (h : s.isPaired = true → t.isPaired = true → f s ≠ f t) :
    t.isPaired = true → s.isPaired = true → f t ≠ f s :=
  fun ht hs heq => h hs ht heq.symm

/-- Paired slots are told apart in whatever order they are listed. -/
theorem Unambiguous.of_perm (h : Unambiguous table) (hperm : other.Perm table) :
    Unambiguous other where
  method_ne := (hperm.pairwise_iff (paired_ne_comm Slot.method)).2 h.method_ne
  place_ne := (hperm.pairwise_iff (paired_ne_comm fun s => (s.pointer, s.index))).2 h.place_ne

/-- Where paired slots are told apart, a reflection does not depend on the order of the rows. -/
theorem reflection?_of_perm (h : Unambiguous table) (hperm : other.Perm table) (method : String) :
    reflection? other method = reflection? table method := by
  -- A reflection is the method of the other half of a pair, wherever the two halves are.
  apply Option.ext
  intro reflected
  rw [reflection?_eq_some_iff h, reflection?_eq_some_iff (h.of_perm hperm)]
  simp only [hperm.mem_iff]

/-! ## All answers -/

/-- Two tables answer alike what is asked of them about a name, be it that of an operator, a method
or a pointer; where the answer is a list of slots, the order of the list may differ. -/
structure AnswersAlike (table other : List Slot) (name : String) : Prop where
  operator : (operators other).value.find? name = (operators table).value.find? name
  reflection : reflection? other name = reflection? table name
  contains : (build other).value.contains name = (build table).value.contains name
  ofMethod : (ofMethod other name).Perm (ofMethod table name)
  ofPointer : (ofPointer other name).Perm (ofPointer table name)
  indexed : ((build other).value.lookup name).Perm ((build table).value.lookup name)

/-- The order of the rows means nothing beyond order. A table whose operators have one method
each, and whose paired slots are told apart by their methods and by their places, answers alike in
every order of its rows. The standard table is such a table. -/
theorem row_order_means_order_only :
    (∀ table other : List Slot, MethodsAgree table → Unambiguous table → other.Perm table →
      ∀ name, AnswersAlike table other name) ∧
    MethodsAgree Slot.table ∧ Unambiguous Slot.table := by
  refine ⟨?_, methodsAgree_table, unambiguous_table⟩
  intro table other hagree hunambiguous hperm name
  constructor
  · exact find?_operators_of_perm hagree hperm name
  · exact reflection?_of_perm hunambiguous hperm name
  · exact contains_build_of_perm hperm name
  · exact ofMethod_perm hperm name
  · exact ofPointer_perm hperm name
  · exact lookup_build_perm hperm name

/-- The standard table answers alike from its last row to its first. -/
theorem answersAlike_reverse_table :
    MethodsAgree Slot.table ∧ Unambiguous Slot.table ∧ Slot.table.reverse.Perm Slot.table ∧
      AnswersAlike Slot.table Slot.table.reverse "__add__" := by
  have hperm : Slot.table.reverse.Perm Slot.table := List.reverse_perm _
  refine ⟨methodsAgree_table, unambiguous_table, hperm, ?_⟩
  exact row_order_means_order_only.1 _ _ methodsAgree_table unambiguous_table hperm "__add__"

/-- Control: where the slots of an operator have two methods, the order of the rows decides. -/
example :
    let add (method pointer : String) :=
      (Slot.plain method pointer .binary).withOpcode "BINARY_ADD"
    (operators [add "a" "p", add "b" "q"]).value.find? "ADD" = some "b" ∧
      (operators [add "b" "q", add "a" "p"]).value.find? "ADD" = some "a" := by
  decide +kernel

end Lookup

end TypeSlots
