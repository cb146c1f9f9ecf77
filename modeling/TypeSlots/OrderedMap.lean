/-!
# Maps that keep insertion order

An entry is placed where its key first appeared; changing its value later does not move it. All
changes go through `alter`, so its two laws (`find?_alter`, `keys_alter`) say what every change does
to the values and to the order.
-/

set_option autoImplicit false

namespace TypeSlots

/-- Entries in the order of insertion, with distinct keys. -/
structure OrderedMap (κ ν : Type) where
  entries : List (κ × ν)
  nodup : (entries.map Prod.fst).Nodup

namespace OrderedMap

variable {κ ν : Type}

/-- The map without entries. -/
def empty : OrderedMap κ ν where
  entries := []
  nodup := List.Pairwise.nil

/-- The keys, in order. -/
def keys (m : OrderedMap κ ν) : List κ :=
  m.entries.map Prod.fst

/-- The number of entries. -/
def size (m : OrderedMap κ ν) : Nat :=
  m.entries.length

/-- There is one key to an entry. -/
theorem length_keys (m : OrderedMap κ ν) : m.keys.length = m.size :=
  List.length_map _

variable [DecidableEq κ]

/-- Entries with the value under a key changed in place, or with a new last entry. -/
def alterEntries (key : κ) (f : Option ν → ν) : List (κ × ν) → List (κ × ν)
  | [] => [(key, f none)]
  | (k, v) :: rest =>
    if k = key then (k, f (some v)) :: rest else (k, v) :: alterEntries key f rest

/-- A change adds the key at the end, unless it is there. -/
theorem map_fst_alterEntries (key : κ) (f : Option ν → ν) (es : List (κ × ν)) :
    (alterEntries key f es).map Prod.fst =
      if key ∈ es.map Prod.fst then es.map Prod.fst else es.map Prod.fst ++ [key] := by
  induction es with
  | nil => simp [alterEntries]
  | cons e es ih =>
    obtain ⟨k, v⟩ := e
    by_cases h : k = key
    · simp [alterEntries, h]
    · have h' : key ≠ k := fun e => h e.symm
      simp only [alterEntries, h, if_false, List.map_cons, ih, List.mem_cons, h', false_or]
      split <;> simp

/-- A change keeps the keys distinct. -/
theorem nodup_alterEntries (key : κ) (f : Option ν → ν) {es : List (κ × ν)}
    (h : (es.map Prod.fst).Nodup) : ((alterEntries key f es).map Prod.fst).Nodup := by
  rw [map_fst_alterEntries]
  split
  · exact h
  · rename_i hk
    rw [List.nodup_append]
    exact ⟨h, by simp, fun a ha b hb hab => hk (by simp_all)⟩

/-- The map with the value under a key changed: `f` is given the old value, if there is one. -/
def alter (m : OrderedMap κ ν) (key : κ) (f : Option ν → ν) : OrderedMap κ ν where
  entries := alterEntries key f m.entries
  nodup := nodup_alterEntries key f m.nodup

/-- The map with a value under a key, in place of the old value if there is one. -/
def insert (m : OrderedMap κ ν) (key : κ) (value : ν) : OrderedMap κ ν :=
  m.alter key fun _ => value

/-- The value under a key. -/
def find? (m : OrderedMap κ ν) (key : κ) : Option ν :=
  m.entries.lookup key

/-- The place of a key in the order. -/
def position? (m : OrderedMap κ ν) (key : κ) : Option Nat :=
  m.keys.idxOf? key

/-- Whether a key has a value. -/
def contains (m : OrderedMap κ ν) (key : κ) : Bool :=
  (m.find? key).isSome

/-- The empty map has no values. -/
@[simp] theorem find?_empty (key : κ) : (empty : OrderedMap κ ν).find? key = none := rfl

/-- A change is seen under its own key and no other. -/
theorem find?_alter (m : OrderedMap κ ν) (key k : κ) (f : Option ν → ν) :
    (m.alter key f).find? k = if k = key then some (f (m.find? key)) else m.find? k := by
  obtain ⟨es, hes⟩ := m
  simp only [find?, alter]
  clear hes
  induction es with
  | nil =>
    by_cases h : k = key
    · simp [alterEntries, h]
    · simp [alterEntries, List.lookup_cons, h, beq_false_of_ne h]
  | cons e es ih =>
    obtain ⟨k', v⟩ := e
    by_cases h' : k' = key
    · subst h'
      by_cases h : k = k'
      · simp [alterEntries, h]
      · simp [alterEntries, List.lookup_cons, h, beq_false_of_ne h]
    · by_cases h : k = k'
      · subst h
        simp [alterEntries, h']
      · have hk : (key == k') = false := beq_false_of_ne (Ne.symm h')
        simp [alterEntries, List.lookup_cons, h', beq_false_of_ne h, hk, ih]

/-- A change adds its key at the end, unless it is there. -/
theorem keys_alter (m : OrderedMap κ ν) (key : κ) (f : Option ν → ν) :
    (m.alter key f).keys = if key ∈ m.keys then m.keys else m.keys ++ [key] :=
  map_fst_alterEntries key f m.entries

/-- An inserted value is found under its own key, and other keys keep theirs. -/
theorem find?_insert (m : OrderedMap κ ν) (key k : κ) (value : ν) :
    (m.insert key value).find? k = if k = key then some value else m.find? k :=
  find?_alter m key k _

/-- An insertion adds its key at the end, unless it is there. -/
theorem keys_insert (m : OrderedMap κ ν) (key : κ) (value : ν) :
    (m.insert key value).keys = if key ∈ m.keys then m.keys else m.keys ++ [key] :=
  keys_alter m key _

end OrderedMap

namespace OrderedMap

variable {κ α : Type} [DecidableEq κ]

/-- The map with an item added to the list under a key. -/
def push (m : OrderedMap κ (List α)) (key : κ) (item : α) : OrderedMap κ (List α) :=
  m.alter key fun items => items.getD [] ++ [item]

end OrderedMap

end TypeSlots
