import TypeSlots.Lookup
import TypeSlots.MethodIndex
import TypeSlots.Proofs.OrderedMap.Keys
import Mathlib.Data.List.Induction

/-!
# The index of methods and the scan of the table

The index of a table answers as a scan of the table does (`lookup_build`), for every method and
every table, also where the slots of a method are apart. `Grouped` ties the groups to the slots
entered so far: a group is the scan of these slots, and the methods are in the order of their first
slots. One more slot keeps it (`Grouped.push`), so it holds of every table (`grouped_ofTable`).
Since every slot has one method, the groups one after the other are the table in another order
(`flatMap_ofMethod_perm`).
-/

set_option autoImplicit false

namespace TypeSlots.MethodIndex

open Lookup

/-- The groups are those of the slots entered so far. -/
structure Grouped (done : List Slot) (groups : OrderedMap String (List Slot)) : Prop where
  /-- The methods are those of the slots, in the order of their first slots. -/
  keys : FirstAppearances (done.map Slot.method) groups.keys
  /-- The group of a method is the scan of the slots for it. -/
  find? : ∀ method, (groups.find? method).getD [] = ofMethod done method

/-! ## One more slot -/

/-- A scan of one more slot ends with it, if it has the method. -/
theorem ofMethod_append_singleton (table : List Slot) (s : Slot) (method : String) :
    ofMethod (table ++ [s]) method =
      if method = s.method then ofMethod table method ++ [s] else ofMethod table method := by
  rw [ofMethod, List.filter_append, ← ofMethod]
  by_cases h : method = s.method
  · simp [h]
  · simp [h, Ne.symm h]

theorem grouped_empty : Grouped [] .empty where
  keys := FirstAppearances.nil
  find? _ := rfl

/-- One more slot at the end of its group keeps the groups those of the slots entered. -/
theorem Grouped.push {done : List Slot} {groups : OrderedMap String (List Slot)}
    (h : Grouped done groups) (s : Slot) : Grouped (done ++ [s]) (groups.push s.method s) where
  keys := by
    rw [List.map_append, List.map_singleton]
    exact h.keys.alter s.method _
  find? method := by
    rw [OrderedMap.push, OrderedMap.find?_alter, ofMethod_append_singleton, h.find?]
    by_cases hm : method = s.method
    · rw [if_pos hm, if_pos hm, hm, Option.getD_some]
    · rw [if_neg hm, if_neg hm, h.find?]

/-! ## All slots -/

/-- The groups of a table are those of all its slots. -/
theorem grouped_ofTable (table : List Slot) : Grouped table (ofTable table).groups := by
  induction table using List.reverseRecOn with
  | nil => exact grouped_empty
  | append_singleton done s ih =>
    have hlast : (ofTable (done ++ [s])).groups = (ofTable done).groups.push s.method s := by
      rw [ofTable, List.foldl_append]
      rfl
    rw [hlast]
    exact ih.push s

/-- The report of an index leaves it as it is. -/
@[simp] theorem value_build (table : List Slot) : (build table).value = ofTable table := rfl

/-- The index finds what a scan of the table finds. -/
theorem lookup_build (table : List Slot) (method : String) :
    (build table).value.lookup method = ofMethod table method :=
  (grouped_ofTable table).find? method

theorem mem_lookup_build (table : List Slot) (method : String) (s : Slot) :
    s ∈ (build table).value.lookup method ↔ s ∈ table ∧ s.method = method := by
  rw [lookup_build, mem_ofMethod]

/-- The methods of the index are those of the table. -/
theorem mem_methods_build (table : List Slot) (method : String) :
    method ∈ (build table).value.methods ↔ ∃ s ∈ table, s.method = method := by
  rw [value_build, methods, (grouped_ofTable table).keys.mem_iff, List.mem_map]

/-- The index has the methods for which a scan finds a slot. -/
theorem contains_build_iff (table : List Slot) (method : String) :
    (build table).value.contains method = true ↔ ofMethod table method ≠ [] := by
  have hmem := mem_methods_build table method
  rw [contains, OrderedMap.contains_iff, ← methods, hmem, ofMethod, Ne, List.filter_eq_nil_iff]
  simp

/-- Without the slots of one method, the scans for the others find the same. -/
theorem ofMethod_filter_ne {method other : String} (h : other ≠ method) (table : List Slot) :
    ofMethod (table.filter fun s => !(s.method == method)) other = ofMethod table other := by
  rw [ofMethod, ofMethod, List.filter_filter]
  refine List.filter_congr fun s _ => ?_
  by_cases hs : s.method = other
  · simp [hs, h]
  · simp [hs]

/-- A table is put together from its scans for all its methods, each taken once. -/
theorem flatMap_ofMethod_perm {methods : List String} (hmethods : methods.Nodup)
    {table : List Slot} (h : ∀ s ∈ table, s.method ∈ methods) :
    (methods.flatMap (ofMethod table)).Perm table := by
  -- The first method takes its slots out of the table; the others scan what is left.
  induction methods generalizing table with
  | nil =>
    have hnil : table = [] := List.eq_nil_iff_forall_not_mem.2 fun s hs => by simpa using h s hs
    rw [hnil]
    exact List.Perm.refl _
  | cons method methods ih =>
    obtain ⟨hnot, hrest⟩ := List.nodup_cons.1 hmethods
    have hleft : ∀ s ∈ table.filter fun s => !(s.method == method), s.method ∈ methods := by
      intro s hs
      obtain ⟨hs, hne⟩ := List.mem_filter.1 hs
      rcases List.mem_cons.1 (h s hs) with heq | hmem
      · simp [heq] at hne
      · exact hmem
    have hscan : methods.flatMap (ofMethod table) =
        methods.flatMap (ofMethod (table.filter fun s => !(s.method == method))) := by
      refine List.flatMap_congr fun other hother => ?_
      have hne : other ≠ method := fun heq => hnot (heq ▸ hother)
      exact (ofMethod_filter_ne hne table).symm
    rw [List.flatMap_cons, hscan]
    exact ((ih hrest hleft).append_left _).trans (List.filter_append_perm _ table)

/-- The index agrees with a scan of the table. For every table the slots of a method in the
index are those that a scan finds, in the same order and as often, and none for a method without
slots; the index has the methods with slots and no other. Its methods are those of the table, each
once and in the order of their first slots, and their slots together are the slots of the table. -/
theorem index_agrees_with_scan (table : List Slot) :
    (∀ method, (build table).value.lookup method = ofMethod table method) ∧
    (∀ method, (build table).value.lookup method = [] ↔ ¬ ∃ s ∈ table, s.method = method) ∧
    (∀ method, (build table).value.contains method = true ↔ ofMethod table method ≠ []) ∧
    (build table).value.methods.Nodup ∧
    (∀ method, method ∈ (build table).value.methods ↔ ∃ s ∈ table, s.method = method) ∧
    ((build table).value.methods.Pairwise fun a b =>
      (table.map Slot.method).idxOf a < (table.map Slot.method).idxOf b) ∧
    ((build table).value.methods.flatMap (build table).value.lookup).Perm table := by
  have hkeys := (grouped_ofTable table).keys
  refine ⟨lookup_build table, ?_, contains_build_iff table, hkeys.nodup, mem_methods_build table,
    hkeys.sorted, ?_⟩
  · intro method
    rw [lookup_build, ofMethod, List.filter_eq_nil_iff]
    simp
  · have hscan : (build table).value.lookup = ofMethod table := funext (lookup_build table)
    rw [hscan]
    refine flatMap_ofMethod_perm hkeys.nodup fun s hs => ?_
    exact (mem_methods_build table s.method).2 ⟨s, hs, rfl⟩

/-- Control: the slots of a method that are apart in the table are together in the index. -/
example :
    let row (method pointer : String) := Slot.plain method pointer .unary
    let index := (build [row "a" "p", row "b" "q", row "a" "r"]).value
    index.methods = ["a", "b"] ∧ index.lookup "a" = [row "a" "p", row "a" "r"] ∧
      index.lookup "c" = [] := by
  decide +kernel

end TypeSlots.MethodIndex
