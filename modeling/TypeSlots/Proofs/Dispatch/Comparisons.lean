import TypeSlots.Dispatch
import TypeSlots.Proofs.OrderedMap.Keys
import Mathlib.Data.List.Induction

/-!
# The map of comparisons and the search for an index

There are two ways from an index to a method. The map of comparisons passes over the comparisons
that call no method and keeps the last of the others; the search finds the first comparison of any
kind. `Entered` ties the map to the comparisons entered so far, and entering one more keeps it
(`Entered.step`), so the map of every table is known from the table alone (`find?_comparisons`). The
two ways lead to the same method exactly where it does not matter which comparison of an index is
taken: where all of them agree (`MethodsAgree.find?_comparisons`). The comparisons of the standard
table do, also those of the index that two of them share.
-/

set_option autoImplicit false

namespace TypeSlots.Comparison

open Dispatch (comparisons enterComparison)

/-- The comparisons of a table that call a method. -/
def callers (table : List Comparison) : List Comparison :=
  table.filter fun c => c.method.isSome

/-- The last comparison of a table with an index that calls a method. -/
def lastCaller? (table : List Comparison) (index : UInt8) : Option Comparison :=
  ((callers table).filter fun c => c.index == index).getLast?

/-- The map is that of the comparisons entered so far. -/
structure Entered (done : List Comparison) (m : OrderedMap UInt8 String) : Prop where
  /-- The keys are the indices of the comparisons that call a method, in the order of the first
  ones. -/
  keys : FirstAppearances ((callers done).map Comparison.index) m.keys
  /-- The method of an index is that of the last comparison that has it and calls a method. -/
  find? : ∀ index, m.find? index = (lastCaller? done index).bind Comparison.method

/-! ## One more comparison -/

theorem callers_append_singleton (table : List Comparison) (c : Comparison) :
    callers (table ++ [c]) = callers table ++ if c.method.isSome then [c] else [] := by
  rw [callers, List.filter_append, ← callers, List.filter_singleton, Bool.cond_eq_ite]

/-- The last comparison of an index after one more comparison. -/
theorem lastCaller?_append_singleton (table : List Comparison) (c : Comparison) (index : UInt8) :
    lastCaller? (table ++ [c]) index =
      if c.method.isSome ∧ index = c.index then some c else lastCaller? table index := by
  rw [lastCaller?, callers_append_singleton, List.filter_append, List.getLast?_append]
  cases hc : c.method with
  | none => simp [lastCaller?]
  | some method =>
    by_cases hi : index = c.index
    · simp [hi]
    · simp [hi, Ne.symm hi, lastCaller?]

theorem entered_empty : Entered [] .empty where
  keys := FirstAppearances.nil
  find? _ := rfl

/-- One more comparison keeps the map that of the comparisons entered. -/
theorem Entered.step {done : List Comparison} {m : OrderedMap UInt8 String} (h : Entered done m)
    (c : Comparison) : Entered (done ++ [c]) (enterComparison m c) := by
  cases hc : c.method with
  | none =>
    have he : enterComparison m c = m := by simp only [enterComparison, hc]
    rw [he]
    constructor
    · rw [callers_append_singleton, hc]
      simpa using h.keys
    · intro index
      rw [lastCaller?_append_singleton, hc]
      simpa using h.find? index
  | some method =>
    have he : enterComparison m c = m.insert c.index method := by simp only [enterComparison, hc]
    rw [he]
    constructor
    · rw [callers_append_singleton, hc, Option.isSome_some, if_pos rfl, List.map_append,
        List.map_singleton]
      exact h.keys.alter c.index _
    · intro index
      rw [OrderedMap.find?_insert, lastCaller?_append_singleton, h.find?]
      by_cases hi : index = c.index
      · simp [hi, hc]
      · simp [hi]

/-! ## All comparisons -/

/-- The map of a table is that of all its comparisons. -/
theorem entered_comparisons (table : List Comparison) :
    Entered table (comparisons table).value := by
  induction table using List.reverseRecOn with
  | nil => exact entered_empty
  | append_singleton done c ih =>
    have hlast : (comparisons (done ++ [c])).value = enterComparison (comparisons done).value c :=
      List.foldl_append
    rw [hlast]
    exact ih.step c

/-- The map has the method of the last comparison of an index that calls one. -/
theorem find?_comparisons (table : List Comparison) (index : UInt8) :
    (comparisons table).value.find? index = (lastCaller? table index).bind Comparison.method :=
  (entered_comparisons table).find? index

/-- The map has an index exactly if some comparison of it calls a method. -/
theorem contains_comparisons_iff (table : List Comparison) (index : UInt8) :
    (comparisons table).value.contains index = true ↔
      ∃ c ∈ table, c.index = index ∧ c.method.isSome = true := by
  rw [OrderedMap.contains_iff, (entered_comparisons table).keys.mem_iff, List.mem_map]
  constructor
  · rintro ⟨c, hc, hi⟩
    obtain ⟨hmem, hm⟩ := List.mem_filter.1 hc
    exact ⟨c, hmem, hi, hm⟩
  · rintro ⟨c, hmem, hi, hm⟩
    exact ⟨c, List.mem_filter.2 ⟨hmem, hm⟩, hi⟩

/-! ## The search -/

/-- The search finds the comparison of an index that has no other of it before it. -/
theorem withIndex?_eq_some_iff (table : List Comparison) (index : UInt8) (c : Comparison) :
    withIndex? table index = some c ↔ ∃ before after, table = before ++ c :: after ∧
      c.index = index ∧ ∀ d ∈ before, d.index ≠ index := by
  rw [withIndex?, List.find?_eq_some_iff_append]
  constructor
  · rintro ⟨hi, before, after, htable, hbefore⟩
    refine ⟨before, after, htable, by simpa using hi, fun d hd => ?_⟩
    simpa using hbefore d hd
  · rintro ⟨before, after, htable, hi, hbefore⟩
    refine ⟨by simpa using hi, before, after, htable, fun d hd => ?_⟩
    simpa using hbefore d hd

theorem withIndex?_eq_none_iff (table : List Comparison) (index : UInt8) :
    withIndex? table index = none ↔ ∀ c ∈ table, c.index ≠ index := by
  simp [withIndex?]

theorem mem_of_withIndex? {table : List Comparison} {index : UInt8} {c : Comparison}
    (h : withIndex? table index = some c) : c ∈ table ∧ c.index = index :=
  ⟨List.mem_of_find?_eq_some h, by simpa using List.find?_some h⟩

theorem mem_of_lastCaller? {table : List Comparison} {index : UInt8} {c : Comparison}
    (h : lastCaller? table index = some c) : c ∈ table ∧ c.index = index := by
  have hmem := List.mem_of_getLast? h
  obtain ⟨hcaller, hi⟩ := List.mem_filter.1 hmem
  exact ⟨List.mem_of_mem_filter hcaller, by simpa using hi⟩

theorem lastCaller?_eq_none_iff (table : List Comparison) (index : UInt8) :
    lastCaller? table index = none ↔ ∀ c ∈ table, c.index = index → c.method = none := by
  rw [lastCaller?, List.getLast?_eq_none_iff, List.filter_eq_nil_iff]
  constructor
  · intro h c hc hi
    by_contra hm
    exact h c (List.mem_filter.2 ⟨hc, Option.isSome_iff_ne_none.2 hm⟩) (by simpa using hi)
  · intro h c hc hi
    obtain ⟨hmem, hm⟩ := List.mem_filter.1 hc
    rw [h c hmem (by simpa using hi)] at hm
    cases hm

/-! ## Where both agree -/

/-- Comparisons of one index have the same method, or none of them has one. -/
def MethodsAgree (table : List Comparison) : Prop :=
  ∀ c ∈ table, ∀ d ∈ table, c.index = d.index → c.method = d.method

theorem methodsAgree_table : MethodsAgree table := by
  unfold MethodsAgree
  decide

/-- Where the comparisons of an index agree, the map and the search lead to the same method. -/
theorem MethodsAgree.find?_comparisons {table : List Comparison} (h : MethodsAgree table)
    (index : UInt8) :
    (comparisons table).value.find? index = (withIndex? table index).bind Comparison.method := by
  rw [Comparison.find?_comparisons]
  cases hlast : lastCaller? table index with
  | none =>
    -- The comparison that the search finds is none of those in the map, so it has no method.
    have hnone := (lastCaller?_eq_none_iff table index).1 hlast
    cases hfirst : withIndex? table index with
    | none => rfl
    | some c =>
      obtain ⟨hc, hi⟩ := mem_of_withIndex? hfirst
      exact (hnone c hc hi).symm
  | some d =>
    obtain ⟨hd, hdi⟩ := mem_of_lastCaller? hlast
    cases hfirst : withIndex? table index with
    | none => exact absurd hdi ((withIndex?_eq_none_iff table index).1 hfirst d hd)
    | some c =>
      obtain ⟨hc, hci⟩ := mem_of_withIndex? hfirst
      exact h d hd c hc (hdi.trans hci.symm)

/-- The index of a comparison found by its name leads to a comparison with its method. -/
theorem MethodsAgree.exists_withIndex? {table : List Comparison} (h : MethodsAgree table)
    {name : String} {c : Comparison} (hname : withName? table name = some c) :
    ∃ d, withIndex? table c.index = some d ∧ d.index = c.index ∧ d.method = c.method := by
  have hc : c ∈ table := List.mem_of_find?_eq_some hname
  cases hfirst : withIndex? table c.index with
  | none => exact absurd rfl ((withIndex?_eq_none_iff table c.index).1 hfirst c hc)
  | some d =>
    obtain ⟨hd, hi⟩ := mem_of_withIndex? hfirst
    exact ⟨d, rfl, hi, h d hd c hc hi⟩

/-- The map of comparisons and the search for an index agree. For every table the map has the
indices whose comparisons call a method, each once and in the order of the first of these; the
method of an index is that of the last of them, while the search finds the first comparison of the
index. If comparisons of one index have one method, as in the standard table, the map has the method
of what the search finds, and the search finds for the index of a named comparison one with its
method. -/
theorem map_and_search_agree (table : List Comparison) :
    (∀ index, (comparisons table).value.contains index = true ↔
      ∃ c ∈ table, c.index = index ∧ c.method.isSome = true) ∧
    (∀ index, (comparisons table).value.find? index =
      (lastCaller? table index).bind Comparison.method) ∧
    (comparisons table).value.keys.Nodup ∧
    FirstAppearances ((callers table).map Comparison.index) (comparisons table).value.keys ∧
    (∀ index c, withIndex? table index = some c ↔ ∃ before after, table = before ++ c :: after ∧
      c.index = index ∧ ∀ d ∈ before, d.index ≠ index) ∧
    (MethodsAgree table →
      (∀ index, (comparisons table).value.find? index =
        (withIndex? table index).bind Comparison.method) ∧
      ∀ name c, withName? table name = some c →
        ∃ d, withIndex? table c.index = some d ∧ d.index = c.index ∧ d.method = c.method) ∧
    MethodsAgree Comparison.table := by
  have hkeys := (entered_comparisons table).keys
  refine ⟨contains_comparisons_iff table, find?_comparisons table, hkeys.nodup, hkeys,
    withIndex?_eq_some_iff table, ?_, methodsAgree_table⟩
  intro hagree
  constructor
  · exact hagree.find?_comparisons
  · intro name c hname
    exact hagree.exists_withIndex? hname

/-- The two comparisons of the standard table that share an index: both ways find no method for
them. -/
theorem map_and_search_agree_at_shared_index :
    MethodsAgree Comparison.table ∧
      withName? Comparison.table "EXC_MATCH" = some ⟨"EXC_MATCH", 9, none⟩ ∧
      (comparisons Comparison.table).value.find? 9 =
        (withIndex? Comparison.table 9).bind Comparison.method ∧
      ∃ d, withIndex? Comparison.table 9 = some d ∧ d.index = 9 ∧ d.method = none := by
  have hname : withName? Comparison.table "EXC_MATCH" = some ⟨"EXC_MATCH", 9, none⟩ := by decide
  obtain ⟨hmap, hsearch⟩ :=
    (map_and_search_agree Comparison.table).2.2.2.2.2.1 methodsAgree_table
  exact ⟨methodsAgree_table, hname, hmap 9, hsearch "EXC_MATCH" _ hname⟩

/-- Control: where the comparisons of an index do not agree, the map has the last method and the
search finds none. -/
example :
    let rows : List Comparison := [⟨"IS", 8, none⟩, ⟨"SAME", 8, some "a"⟩, ⟨"LIKE", 8, some "b"⟩]
    (comparisons rows).value.find? 8 = some "b" ∧
      (withIndex? rows 8).bind Comparison.method = none := by
  decide +kernel

end TypeSlots.Comparison
