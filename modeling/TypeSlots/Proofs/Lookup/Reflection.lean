import TypeSlots.Lookup
import TypeSlots.Proofs.Lookup.Search
import TypeSlots.Slot.Table
import Mathlib.Data.List.Pairwise

/-!
# The reflection of a binary number method

The search for a reflection makes two first-match scans, one for the method and one for the pointer
of its slot. In a table where a method, and a pointer with an index, tell a paired slot from all
others (`Unambiguous`), the first match is the only one, and the search finds exactly the other half
of the pair (`reflection?_eq_some_iff`). To be the two halves of a pair (`Halves`) is a symmetric
relation that no slot has to itself, so the reflection is an involution without fixed points. The
standard table is unambiguous and has both halves of every pair.
-/

set_option autoImplicit false

namespace TypeSlots.Lookup

/-- The two slots of a binary number pair. -/
structure Halves (s t : Slot) : Prop where
  left : s.signature = .binaryNumber
  right : t.signature = .binaryNumber
  /-- They share their pointer. -/
  pointer : s.pointer = t.pointer
  /-- Their indices are zero and one, in some order. -/
  indices : s.index = some 0 ∧ t.index = some 1 ∨ s.index = some 1 ∧ t.index = some 0

/-- Paired slots at two places of a table differ in their methods, and in their pointers or
indices. -/
structure Unambiguous (table : List Slot) : Prop where
  method_ne : table.Pairwise fun s t =>
    s.isPaired = true → t.isPaired = true → s.method ≠ t.method
  place_ne : table.Pairwise fun s t =>
    s.isPaired = true → t.isPaired = true → (s.pointer, s.index) ≠ (t.pointer, t.index)

/-- A slot is the half of a pair that has a method. -/
structure HalfOf (table : List Slot) (method : String) (s : Slot) : Prop where
  mem : s ∈ table
  paired : s.isPaired = true
  method_eq : s.method = method

/-- The name of a reflection: an `r` is put between the underscores of the method and its word. -/
def reflectedName (method : String) : String :=
  "__r" ++ String.ofList (method.toList.drop 2)

/-! ## Halves -/

theorem isPaired_iff (s : Slot) :
    s.isPaired = true ↔ s.signature = .binaryNumber ∧ ∃ index, s.index = some index := by
  rw [Slot.isPaired, Bool.and_eq_true, beq_iff_eq, Option.isSome_iff_exists]

namespace Halves

variable {s t : Slot}

/-- The halves of a pair are halves in either order. -/
theorem symm (h : Halves s t) : Halves t s where
  left := h.right
  right := h.left
  pointer := h.pointer.symm
  indices := by
    rcases h.indices with ⟨hs, ht⟩ | ⟨hs, ht⟩
    · exact .inr ⟨ht, hs⟩
    · exact .inl ⟨ht, hs⟩

theorem paired (h : Halves s t) : s.isPaired = true := by
  rw [isPaired_iff]
  rcases h.indices with ⟨hs, -⟩ | ⟨hs, -⟩
  · exact ⟨h.left, 0, hs⟩
  · exact ⟨h.left, 1, hs⟩

/-- No slot is both halves of a pair. -/
theorem ne (h : Halves s t) : s ≠ t := by
  rintro rfl
  rcases h.indices with ⟨h0, h1⟩ | ⟨h1, h0⟩
  all_goals
    rw [h0] at h1
    exact absurd (Option.some.inj h1) (by decide)

/-- One of the halves is reflected, and the other is not. -/
theorem isReflected_ne (h : Halves s t) : s.isReflected ≠ t.isReflected := by
  rw [Slot.isReflected, Slot.isReflected, h.left, h.right]
  rcases h.indices with ⟨hs, ht⟩ | ⟨hs, ht⟩
  all_goals
    rw [hs, ht]
    decide

end Halves

/-! ## Unambiguous tables -/

/-- Paired slots of a table with one value of a field are one slot, if the field tells them apart.
-/
theorem eq_of_pairwise_ne {β : Type} {f : Slot → β} {table : List Slot}
    (h : table.Pairwise fun s t => s.isPaired = true → t.isPaired = true → f s ≠ f t) {s t : Slot}
    (hs : s ∈ table) (ht : t ∈ table) (hsp : s.isPaired = true) (htp : t.isPaired = true)
    (heq : f s = f t) : s = t := by
  have hsymm : Std.Symm fun s t : Slot => s.isPaired = true → t.isPaired = true → f s ≠ f t :=
    ⟨fun _ _ hne htp hsp heq => hne hsp htp heq.symm⟩
  by_contra hne
  exact h.forall hs ht hne hsp htp heq

/-- In an unambiguous table a method is that of one paired slot. -/
theorem HalfOf.unique {table : List Slot} (hu : Unambiguous table) {method : String} {s t : Slot}
    (hs : HalfOf table method s) (ht : HalfOf table method t) : s = t :=
  eq_of_pairwise_ne hu.method_ne hs.mem ht.mem hs.paired ht.paired
    (hs.method_eq.trans ht.method_eq.symm)

theorem HalfOf.iff_eq {table : List Slot} (hu : Unambiguous table) {method : String} {s : Slot}
    (hs : HalfOf table method s) (u : Slot) : HalfOf table method u ↔ u = s := by
  constructor
  · intro h
    exact h.unique hu hs
  · rintro rfl
    exact hs

/-! ## The two searches -/

/-- The first search finds the half of a pair that has the method. -/
theorem find?_ofMethod_eq_some_iff {table : List Slot} (hu : Unambiguous table) (method : String)
    (s : Slot) :
    ((ofMethod table method).find? fun s => s.isPaired) = some s ↔ HalfOf table method s := by
  rw [find?_eq_some_iff_of_unique, mem_ofMethod]
  · constructor
    · rintro ⟨⟨hs, hm⟩, hp⟩
      exact ⟨hs, hp, hm⟩
    · rintro ⟨hs, hp, hm⟩
      exact ⟨⟨hs, hm⟩, hp⟩
  · intro a ha b hb hap hbp
    obtain ⟨ha, ham⟩ := (mem_ofMethod table method a).1 ha
    obtain ⟨hb, hbm⟩ := (mem_ofMethod table method b).1 hb
    exact HalfOf.unique hu ⟨ha, hap, ham⟩ ⟨hb, hbp, hbm⟩

/-- The second search finds the paired slot with the pointer and the index. -/
theorem find?_ofPointer_eq_some_iff {table : List Slot} (hu : Unambiguous table) (pointer : String)
    (index : UInt8) (t : Slot) :
    ((ofPointer table pointer).find? fun t =>
        t.signature == .binaryNumber && t.index == some index) = some t ↔
      t ∈ table ∧ t.pointer = pointer ∧ t.signature = .binaryNumber ∧ t.index = some index := by
  have htest (t : Slot) : (t.signature == .binaryNumber && t.index == some index) = true ↔
      t.signature = .binaryNumber ∧ t.index = some index := by
    rw [Bool.and_eq_true, beq_iff_eq, beq_iff_eq]
  rw [find?_eq_some_iff_of_unique, mem_ofPointer, htest, and_assoc]
  intro a ha b hb hat hbt
  obtain ⟨ha, hap⟩ := (mem_ofPointer table pointer a).1 ha
  obtain ⟨hb, hbp⟩ := (mem_ofPointer table pointer b).1 hb
  obtain ⟨has, hai⟩ := (htest a).1 hat
  obtain ⟨hbs, hbi⟩ := (htest b).1 hbt
  refine eq_of_pairwise_ne hu.place_ne ha hb ((isPaired_iff a).2 ⟨has, index, hai⟩)
    ((isPaired_iff b).2 ⟨hbs, index, hbi⟩) ?_
  rw [hap, hai, hbp, hbi]

/-- Only zero and one have another half, which is one and zero. -/
theorem otherHalf?_eq_some_iff (index other : UInt8) :
    otherHalf? index = some other ↔ index = 0 ∧ other = 1 ∨ index = 1 ∧ other = 0 := by
  rw [otherHalf?]
  by_cases h0 : index = 0
  · simp [h0, eq_comm]
  · by_cases h1 : index = 1
    · simp [h1, eq_comm]
    · simp [h0, h1]

/-- The reflection of a method is the method of the other half of its pair. -/
theorem reflection?_eq_some_iff {table : List Slot} (hu : Unambiguous table) (n m : String) :
    reflection? table n = some m ↔
      ∃ s ∈ table, ∃ t ∈ table, Halves s t ∧ s.method = n ∧ t.method = m := by
  simp only [reflection?, Option.bind_eq_bind, Option.bind_eq_some_iff, Option.pure_def,
    Option.some.injEq]
  constructor
  · rintro ⟨s, hs, other, ⟨index, hi, hother⟩, t, ht, hm⟩
    obtain ⟨hs, hpaired, hn⟩ := (find?_ofMethod_eq_some_iff hu n s).1 hs
    obtain ⟨ht, hpointer, hsig, hindex⟩ := (find?_ofPointer_eq_some_iff hu s.pointer other t).1 ht
    refine ⟨s, hs, t, ht, ⟨((isPaired_iff s).1 hpaired).1, hsig, hpointer.symm, ?_⟩, hn, hm⟩
    rcases (otherHalf?_eq_some_iff index other).1 hother with ⟨rfl, rfl⟩ | ⟨rfl, rfl⟩
    · exact .inl ⟨hi, hindex⟩
    · exact .inr ⟨hi, hindex⟩
  · rintro ⟨s, hs, t, ht, h, hn, hm⟩
    obtain ⟨-, index, hi⟩ := (isPaired_iff s).1 h.paired
    obtain ⟨-, other, hindex⟩ := (isPaired_iff t).1 h.symm.paired
    have hother : otherHalf? index = some other := by
      rw [otherHalf?_eq_some_iff]
      simpa only [hi, hindex, Option.some.injEq] using h.indices
    refine ⟨s, (find?_ofMethod_eq_some_iff hu n s).2 ⟨hs, h.paired, hn⟩, other,
      ⟨index, hi, hother⟩, t, ?_, hm⟩
    exact (find?_ofPointer_eq_some_iff hu s.pointer other t).2
      ⟨ht, h.pointer.symm, h.right, hindex⟩

/-! ## The standard table -/

/-- The paired slots of the standard table differ in their methods and in their places. -/
theorem unambiguous_table : Unambiguous Slot.table where
  method_ne := by
    rw [← List.pairwise_filter, ← List.pairwise_map]
    decide +kernel
  place_ne := by
    rw [← List.pairwise_filter, ← List.pairwise_map (f := fun s : Slot => (s.pointer, s.index))]
    decide +kernel

instance (s t : Slot) : Decidable (Halves s t) :=
  decidable_of_iff (s.signature = .binaryNumber ∧ t.signature = .binaryNumber ∧
      s.pointer = t.pointer ∧
      (s.index = some 0 ∧ t.index = some 1 ∨ s.index = some 1 ∧ t.index = some 0))
    ⟨fun ⟨left, right, pointer, indices⟩ => ⟨left, right, pointer, indices⟩,
      fun ⟨left, right, pointer, indices⟩ => ⟨left, right, pointer, indices⟩⟩

/-- Every binary number slot of the standard table is half of a pair there. -/
theorem exists_halves_table :
    ∀ s ∈ Slot.table, s.signature = .binaryNumber → ∃ t ∈ Slot.table, Halves s t := by
  decide +kernel

/-- The second half of a pair of the standard table is named after the first. -/
theorem method_eq_reflectedName :
    ∀ s ∈ Slot.table, s.index = some 0 → ∀ t ∈ Slot.table, Halves s t →
      t.method = reflectedName s.method := by
  decide +kernel

/-- Reflection is an involution without fixed points. In an unambiguous table the reflection of a
method is another method, and its reflection is the first one; the two have one paired slot each,
and these are the halves of a pair, of which one is reflected. The standard table is unambiguous;
there the methods with a reflection are those of the binary number slots, and the method at index
one is named after the method at index zero. -/
theorem reflection_is_involutive :
    (∀ table, Unambiguous table → ∀ n m, reflection? table n = some m →
      m ≠ n ∧ reflection? table m = some n ∧
      ∃ s t, (∀ u, HalfOf table n u ↔ u = s) ∧ (∀ u, HalfOf table m u ↔ u = t) ∧
        Halves s t ∧ s.isReflected ≠ t.isReflected) ∧
    Unambiguous Slot.table ∧
    (∀ n, (reflection? Slot.table n).isSome = true ↔
      ∃ s ∈ Slot.table, s.signature = .binaryNumber ∧ s.method = n) ∧
    (∀ n m s, reflection? Slot.table n = some m → HalfOf Slot.table n s →
      (s.index = some 0 → m = reflectedName n) ∧ (s.index = some 1 → n = reflectedName m)) := by
  refine ⟨?_, unambiguous_table, ?_, ?_⟩
  · intro table hu n m hnm
    obtain ⟨s, hs, t, ht, h, rfl, rfl⟩ := (reflection?_eq_some_iff hu n m).1 hnm
    have hsn : HalfOf table s.method s := ⟨hs, h.paired, rfl⟩
    have htm : HalfOf table t.method t := ⟨ht, h.symm.paired, rfl⟩
    refine ⟨?_, ?_, s, t, hsn.iff_eq hu, htm.iff_eq hu, h, h.isReflected_ne⟩
    · -- One method would be that of both halves, which are two slots.
      intro heq
      exact h.ne (hsn.unique hu ⟨ht, h.symm.paired, heq⟩)
    · exact (reflection?_eq_some_iff hu t.method s.method).2 ⟨t, ht, s, hs, h.symm, rfl, rfl⟩
  · intro n
    rw [Option.isSome_iff_exists]
    constructor
    · rintro ⟨m, hnm⟩
      obtain ⟨s, hs, t, -, h, hn, -⟩ := (reflection?_eq_some_iff unambiguous_table n m).1 hnm
      exact ⟨s, hs, h.left, hn⟩
    · rintro ⟨s, hs, hsig, hn⟩
      obtain ⟨t, ht, h⟩ := exists_halves_table s hs hsig
      exact ⟨t.method, (reflection?_eq_some_iff unambiguous_table n t.method).2
        ⟨s, hs, t, ht, h, hn, rfl⟩⟩
  · intro n m s hnm hsn
    obtain ⟨s', hs, t, ht, h, hn, rfl⟩ := (reflection?_eq_some_iff unambiguous_table n m).1 hnm
    obtain rfl : s' = s := HalfOf.unique unambiguous_table ⟨hs, h.paired, hn⟩ hsn
    obtain rfl := hn
    constructor
    · intro h0
      exact method_eq_reflectedName s' hs h0 t ht h
    · intro h1
      -- The other half has index zero, so the names are told the other way round.
      rcases h.indices with ⟨h0, -⟩ | ⟨-, h0⟩
      · rw [h0] at h1
        exact absurd (Option.some.inj h1) (by decide)
      · exact method_eq_reflectedName t ht h0 s' hs h.symm

/-- Control: where a method has two paired slots, the way back starts from the first of them. -/
example :
    let half (method pointer : String) := (Slot.plain method pointer .binaryNumber).withIndex
    let table := [half "b" "q" 0, half "a" "p" 0, half "b" "p" 1]
    reflection? table "a" = some "b" ∧ reflection? table "b" = none := by
  decide +kernel

end TypeSlots.Lookup
