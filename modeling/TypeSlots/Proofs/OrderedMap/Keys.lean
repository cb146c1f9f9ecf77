import TypeSlots.OrderedMap
import Mathlib.Data.List.Basic

/-!
# The keys of a map that keeps insertion order

A map that is changed at one key after another has the keys of these changes, each once and in the
order in which they first appear among them (`FirstAppearances`). The empty map has the keys of no
change, and one more change keeps the law (`FirstAppearances.alter`): a key that is there stays
where it is, a new one comes last. A map has a value under each of its keys and under no other
(`OrderedMap.contains_iff`).
-/

set_option autoImplicit false

namespace TypeSlots

variable {κ ν : Type} [DecidableEq κ]

/-- The keys are those of a source, in the order in which they first appear there. -/
structure FirstAppearances (source keys : List κ) : Prop where
  /-- No key is missing, and none is added. -/
  mem_iff : ∀ key, key ∈ keys ↔ key ∈ source
  /-- An earlier key appears earlier in the source. -/
  sorted : keys.Pairwise fun a b => source.idxOf a < source.idxOf b

namespace FirstAppearances

theorem nil : FirstAppearances ([] : List κ) [] where
  mem_iff _ := Iff.rfl
  sorted := List.Pairwise.nil

/-- No key occurs twice: it would appear before itself. -/
theorem nodup {source keys : List κ} (h : FirstAppearances source keys) : keys.Nodup := by
  refine h.sorted.imp ?_
  rintro a b hlt rfl
  exact Nat.lt_irrefl _ hlt

/-- Keys that appear in a source keep their order when the source goes on. -/
theorem sorted_append {source keys : List κ} (h : FirstAppearances source keys) (rest : List κ) :
    keys.Pairwise fun a b => (source ++ rest).idxOf a < (source ++ rest).idxOf b := by
  refine h.sorted.imp_of_mem fun {a b} ha hb hlt => ?_
  rw [List.idxOf_append_of_mem ((h.mem_iff a).1 ha), List.idxOf_append_of_mem ((h.mem_iff b).1 hb)]
  exact hlt

/-- A key that has appeared stays where it is. -/
theorem snoc_of_mem {source keys : List κ} (h : FirstAppearances source keys) {key : κ}
    (hkey : key ∈ keys) : FirstAppearances (source ++ [key]) keys where
  mem_iff k := by
    rw [List.mem_append, List.mem_singleton, ← h.mem_iff]
    constructor
    · exact .inl
    · rintro (hk | rfl)
      · exact hk
      · exact hkey
  sorted := h.sorted_append [key]

/-- A new key comes last. -/
theorem snoc_of_notMem {source keys : List κ} (h : FirstAppearances source keys) {key : κ}
    (hkey : key ∉ keys) : FirstAppearances (source ++ [key]) (keys ++ [key]) where
  mem_iff k := by
    rw [List.mem_append, List.mem_append, h.mem_iff]
  sorted := by
    rw [List.pairwise_append]
    refine ⟨h.sorted_append [key], List.pairwise_singleton _ _, ?_⟩
    intro a ha b hb
    obtain rfl : b = key := List.mem_singleton.1 hb
    have hold : a ∈ source := (h.mem_iff a).1 ha
    have hnew : b ∉ source := fun hmem => hkey ((h.mem_iff b).2 hmem)
    have hlt : source.idxOf a < source.length := List.idxOf_lt_length_of_mem hold
    rw [List.idxOf_append_of_mem hold, List.idxOf_append_of_notMem hnew]
    omega

/-- One more change of a map keeps its keys in the order of their first appearance. -/
theorem alter {source : List κ} {m : OrderedMap κ ν} (h : FirstAppearances source m.keys) (key : κ)
    (f : Option ν → ν) : FirstAppearances (source ++ [key]) (m.alter key f).keys := by
  rw [OrderedMap.keys_alter]
  by_cases hkey : key ∈ m.keys
  · rw [if_pos hkey]
    exact h.snoc_of_mem hkey
  · rw [if_neg hkey]
    exact h.snoc_of_notMem hkey

end FirstAppearances

/-- A map has a value under its keys and no other. -/
theorem OrderedMap.contains_iff (m : OrderedMap κ ν) (key : κ) :
    m.contains key = true ↔ key ∈ m.keys := by
  rw [OrderedMap.contains, OrderedMap.find?, List.lookup_isSome_iff, OrderedMap.keys, List.mem_map]
  refine exists_congr fun entry => and_congr_right fun _ => ?_
  rw [beq_iff_eq, eq_comm]

end TypeSlots
