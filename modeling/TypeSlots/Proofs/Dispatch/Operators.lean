import TypeSlots.Dispatch
import Mathlib.Data.List.Basic

/-!
# The map of operators and its journal

What the map of operators holds, and what is reported on the way to it, in terms of the table alone:
the slots that an operator calls (`callers`), the first and the last of them, and the places where a
slot comes after another one with its operator (`overrideAt?`). `Entered` ties the map and the
journal to the slots entered so far; entering one more slot keeps it (`Entered.step`), so it holds
of every table (`entered_foldl`).
-/

set_option autoImplicit false

namespace TypeSlots.Dispatch

/-- The slots of a table that an operator calls. -/
def callers (table : List Slot) (operator : String) : List Slot :=
  table.filter fun s => s.operator? == some operator

/-- The last slot of a table that an operator calls. -/
def lastCaller? (table : List Slot) (operator : String) : Option Slot :=
  (callers table operator).getLast?

/-- The place of the first slot of a table that an operator calls. -/
def firstPlace (table : List Slot) (operator : String) : Nat :=
  table.findIdx fun s => s.operator? == some operator

/-- The report that the slot at a place overrides the nearest slot before it with its operator, if
there is one. -/
def overrideAt? (table : List Slot) (place : Nat) : Option Event := do
  let s ← table[place]?
  let operator ← s.operator?
  let previous ← lastCaller? (table.take place) operator
  return .overridden s.method previous.method operator s.pointer

/-- The reports of all overrides, in the order of the table. -/
def overridesIn (table : List Slot) : List Event :=
  (List.range table.length).filterMap (overrideAt? table)

/-- The map and the journal are those of the slots entered so far. -/
structure Entered (done : List Slot) (built : Logged (OrderedMap String String)) : Prop where
  /-- The keys are the operators of the slots. -/
  mem_keys : ∀ operator, operator ∈ built.value.keys ↔ ∃ s ∈ done, s.operator? = some operator
  /-- The keys are in the order of their first slots. -/
  sorted : built.value.keys.Pairwise fun a b => firstPlace done a < firstPlace done b
  /-- The method of a key is that of its last slot. -/
  find? : ∀ operator, built.value.find? operator = (lastCaller? done operator).map Slot.method
  /-- Every override was reported, and nothing else. -/
  events : built.events = overridesIn done
  /-- A slot with an opcode brought a key or an override. -/
  count : (overridesIn done).length + built.value.keys.length =
    (done.filter fun s => s.opcode.isSome).length

/-! ## One more slot -/

/-- A slot has an operator when it has an opcode. -/
theorem isSome_opcode (s : Slot) : s.opcode.isSome = s.operator?.isSome := by
  rw [Slot.operator?, Option.isSome_map]

/-- The last slot of an operator after one more slot. -/
theorem lastCaller?_append_singleton (table : List Slot) (s : Slot) (operator : String) :
    lastCaller? (table ++ [s]) operator =
      if s.operator? = some operator then some s else lastCaller? table operator := by
  rw [lastCaller?, callers, List.filter_append, List.getLast?_append]
  by_cases h : s.operator? = some operator
  · simp [h]
  · simp [h, lastCaller?, callers]

theorem lastCaller?_eq_none_iff (table : List Slot) (operator : String) :
    lastCaller? table operator = none ↔ ¬ ∃ s ∈ table, s.operator? = some operator := by
  simp [lastCaller?, callers]

theorem exists_lastCaller?_iff (table : List Slot) (operator : String) :
    (∃ s, lastCaller? table operator = some s) ↔ ∃ s ∈ table, s.operator? = some operator := by
  rw [← Option.ne_none_iff_exists', Ne, lastCaller?_eq_none_iff, not_not]

/-- A first place is where it is, whatever comes after the table. -/
theorem firstPlace_append {table : List Slot} {operator : String}
    (h : ∃ s ∈ table, s.operator? = some operator) (rest : List Slot) :
    firstPlace (table ++ rest) operator = firstPlace table operator ∧
      firstPlace table operator < table.length := by
  have hlt : firstPlace table operator < table.length := by
    obtain ⟨s, hs, hop⟩ := h
    exact List.findIdx_lt_length_of_exists ⟨s, hs, by simp [hop]⟩
  refine ⟨?_, hlt⟩
  rw [firstPlace, List.findIdx_append]
  exact if_pos hlt

/-- An operator without a slot in a table has its first place after it. -/
theorem length_le_firstPlace_append {table : List Slot} {operator : String}
    (h : ¬ ∃ s ∈ table, s.operator? = some operator) (rest : List Slot) :
    table.length ≤ firstPlace (table ++ rest) operator := by
  have hnot : ¬ firstPlace table operator < table.length := by
    intro hlt
    obtain ⟨s, hs, hop⟩ := List.findIdx_lt_length.1 hlt
    exact h ⟨s, hs, by simpa using hop⟩
  rw [firstPlace, List.findIdx_append]
  rw [firstPlace] at hnot
  rw [if_neg hnot]
  omega

/-- What is reported at a place depends on the slots up to it. -/
theorem overrideAt?_append {table : List Slot} {place : Nat} (h : place < table.length)
    (rest : List Slot) : overrideAt? (table ++ rest) place = overrideAt? table place := by
  rw [overrideAt?, overrideAt?, List.getElem?_append_left h,
    List.take_append_of_le_length (Nat.le_of_lt h)]

/-- What the slot after a table overrides. -/
theorem overrideAt?_length (table : List Slot) (s : Slot) :
    overrideAt? (table ++ [s]) table.length = do
      let operator ← s.operator?
      let previous ← lastCaller? table operator
      return .overridden s.method previous.method operator s.pointer := by
  simp [overrideAt?]

/-- One more slot adds its own report, if it overrides a slot. -/
theorem overridesIn_append_singleton (table : List Slot) (s : Slot) :
    overridesIn (table ++ [s]) =
      overridesIn table ++ (overrideAt? (table ++ [s]) table.length).toList := by
  have hbefore : (List.range table.length).filterMap (overrideAt? (table ++ [s])) =
      overridesIn table :=
    List.filterMap_congr fun place hplace =>
      overrideAt?_append (List.mem_range.1 hplace) [s]
  rw [overridesIn, List.length_append, List.length_singleton, List.range_succ,
    List.filterMap_append, hbefore]
  cases h : overrideAt? (table ++ [s]) table.length <;> simp [h]

/-- First places keep their order when the table goes on. -/
theorem sorted_append {table : List Slot} {keys : List String}
    (hmem : ∀ operator ∈ keys, ∃ s ∈ table, s.operator? = some operator)
    (hsorted : keys.Pairwise fun a b => firstPlace table a < firstPlace table b)
    (rest : List Slot) :
    keys.Pairwise fun a b => firstPlace (table ++ rest) a < firstPlace (table ++ rest) b := by
  refine hsorted.imp_of_mem fun {a b} ha hb hlt => ?_
  rw [(firstPlace_append (hmem a ha) rest).1, (firstPlace_append (hmem b hb) rest).1]
  exact hlt

theorem exists_mem_append_singleton (table : List Slot) (s : Slot) (operator : String) :
    (∃ x ∈ table ++ [s], x.operator? = some operator) ↔
      (∃ x ∈ table, x.operator? = some operator) ∨ s.operator? = some operator := by
  simp [or_and_right, exists_or]

/-- A slot without an operator changes nothing. -/
theorem Entered.skip {done : List Slot} {built : Logged (OrderedMap String String)}
    (h : Entered done built) {s : Slot} (hs : s.operator? = none) :
    Entered (done ++ [s]) built := by
  have hover : overridesIn (done ++ [s]) = overridesIn done := by
    rw [overridesIn_append_singleton, overrideAt?_length, hs]
    simp
  constructor
  · intro operator
    rw [h.mem_keys, exists_mem_append_singleton, hs]
    simp
  · exact sorted_append (fun operator => (h.mem_keys operator).1) h.sorted [s]
  · intro operator
    rw [lastCaller?_append_singleton, hs, h.find?]
    simp
  · rw [hover, h.events]
  · rw [hover, h.count]
    simp [isSome_opcode, hs]

/-- After an insertion every key has the method of its last slot, that of the inserted one. -/
theorem Entered.find?_insert {done : List Slot} {built : Logged (OrderedMap String String)}
    (h : Entered done built) {s : Slot} {operator : String} (hs : s.operator? = some operator)
    (k : String) :
    (built.value.insert operator s.method).find? k =
      (lastCaller? (done ++ [s]) k).map Slot.method := by
  rw [OrderedMap.find?_insert, lastCaller?_append_singleton, hs, h.find?]
  by_cases hk : k = operator
  · simp [hk]
  · simp [hk, Ne.symm hk]

/-- A slot with a new operator brings a key. -/
theorem Entered.insert {done : List Slot} {built : Logged (OrderedMap String String)}
    (h : Entered done built) {s : Slot} {operator : String} (hs : s.operator? = some operator)
    (hnew : ¬ ∃ x ∈ done, x.operator? = some operator) :
    Entered (done ++ [s]) ⟨built.value.insert operator s.method, built.events⟩ := by
  have hkeys : (built.value.insert operator s.method).keys = built.value.keys ++ [operator] := by
    rw [OrderedMap.keys_insert, if_neg fun hmem => hnew ((h.mem_keys operator).1 hmem)]
  have hover : overridesIn (done ++ [s]) = overridesIn done := by
    rw [overridesIn_append_singleton, overrideAt?_length, hs]
    simp [(lastCaller?_eq_none_iff done operator).2 hnew]
  constructor
  · intro k
    rw [exists_mem_append_singleton, ← h.mem_keys, hs, hkeys]
    simp [eq_comm]
  · -- The first slot of the new key is the last one entered, after those of all other keys.
    rw [hkeys, List.pairwise_append]
    refine ⟨sorted_append (fun k => (h.mem_keys k).1) h.sorted [s], List.pairwise_singleton _ _, ?_⟩
    intro a ha b hb
    obtain rfl : b = operator := by simpa using hb
    obtain ⟨heq, hlt⟩ := firstPlace_append ((h.mem_keys a).1 ha) [s]
    have hle := length_le_firstPlace_append hnew [s]
    omega
  · exact h.find?_insert hs
  · rw [hover, h.events]
  · rw [hover, hkeys, List.length_append, ← Nat.add_assoc, h.count]
    simp [isSome_opcode, hs]

/-- A slot with an operator that is a key already brings an override. -/
theorem Entered.override {done : List Slot} {built : Logged (OrderedMap String String)}
    (h : Entered done built) {s previous : Slot} {operator : String}
    (hs : s.operator? = some operator) (hprevious : lastCaller? done operator = some previous) :
    Entered (done ++ [s]) ⟨built.value.insert operator s.method,
      built.events ++ [.overridden s.method previous.method operator s.pointer]⟩ := by
  have hold : ∃ x ∈ done, x.operator? = some operator :=
    (exists_lastCaller?_iff done operator).1 ⟨previous, hprevious⟩
  have hkeys : (built.value.insert operator s.method).keys = built.value.keys := by
    rw [OrderedMap.keys_insert, if_pos ((h.mem_keys operator).2 hold)]
  have hover : overridesIn (done ++ [s]) =
      overridesIn done ++ [.overridden s.method previous.method operator s.pointer] := by
    rw [overridesIn_append_singleton, overrideAt?_length, hs]
    simp [hprevious]
  constructor
  · intro k
    rw [exists_mem_append_singleton, ← h.mem_keys, hs, hkeys]
    constructor
    · exact .inl
    · rintro (hk | hk)
      · exact hk
      · obtain rfl : operator = k := by simpa using hk
        exact (h.mem_keys operator).2 hold
  · rw [hkeys]
    exact sorted_append (fun k => (h.mem_keys k).1) h.sorted [s]
  · exact h.find?_insert hs
  · rw [hover, h.events]
  · rw [hover, hkeys, List.length_append, List.filter_append, List.length_append, ← h.count]
    simp [isSome_opcode, hs]
    omega

/-- One more slot keeps the map and the journal those of the slots entered. -/
theorem Entered.step {done : List Slot} {built : Logged (OrderedMap String String)}
    (h : Entered done built) (s : Slot) : Entered (done ++ [s]) (enter built s) := by
  cases hs : s.operator? with
  | none =>
    have he : enter built s = built := by simp only [enter, hs]
    rw [he]
    exact h.skip hs
  | some operator =>
    -- The journal names the method found in the map, which is that of the last slot entered.
    cases hlast : lastCaller? done operator with
    | none =>
      have he : enter built s = ⟨built.value.insert operator s.method, built.events⟩ := by
        simp [enter, hs, overrides, h.find?, hlast]
      rw [he]
      exact h.insert hs ((lastCaller?_eq_none_iff done operator).1 hlast)
    | some previous =>
      have he : enter built s = ⟨built.value.insert operator s.method,
          built.events ++ [.overridden s.method previous.method operator s.pointer]⟩ := by
        simp [enter, hs, overrides, h.find?, hlast]
      rw [he]
      exact h.override hs hlast

/-! ## All slots -/

theorem entered_empty : Entered [] (.quiet .empty) := by
  constructor <;> simp [Logged.quiet, OrderedMap.empty, OrderedMap.keys, OrderedMap.find?,
    lastCaller?, callers, overridesIn]

/-- Entering the rest of a table after some slots. -/
theorem Entered.foldl {done : List Slot} {built : Logged (OrderedMap String String)}
    (h : Entered done built) (rest : List Slot) :
    Entered (done ++ rest) (rest.foldl enter built) := by
  induction rest generalizing done built with
  | nil => simpa using h
  | cons s rest ih =>
    have hnext := ih (h.step s)
    rwa [List.append_assoc, List.singleton_append] at hnext

/-- The map and the journal of a table are those of all its slots. -/
theorem entered_foldl (table : List Slot) :
    Entered table (table.foldl enter (.quiet .empty)) := by
  simpa using entered_empty.foldl table

/-- A slot is reported exactly when a slot before it has its operator. -/
theorem isSome_overrideAt?_iff (table : List Slot) (place : Nat) :
    (overrideAt? table place).isSome = true ↔
      ∃ s operator, table[place]? = some s ∧ s.operator? = some operator ∧
        ∃ earlier ∈ table.take place, earlier.operator? = some operator := by
  constructor
  · intro h
    obtain ⟨e, he⟩ := Option.isSome_iff_exists.1 h
    simp only [overrideAt?, Option.bind_eq_bind, Option.bind_eq_some_iff] at he
    obtain ⟨s, hs, operator, hop, previous, hlast, -⟩ := he
    exact ⟨s, operator, hs, hop, (exists_lastCaller?_iff _ _).1 ⟨previous, hlast⟩⟩
  · rintro ⟨s, operator, hs, hop, hearlier⟩
    obtain ⟨previous, hlast⟩ := (exists_lastCaller?_iff _ _).2 hearlier
    simp [overrideAt?, hs, hop, hlast]

/-- What is reported at a place: the slot there, the nearest slot before it with its operator, and
the operator, as a trace that names them. -/
theorem report_of_overrideAt? {table : List Slot} {place : Nat} {e : Event}
    (h : overrideAt? table place = some e) :
    ∃ s operator previous, table[place]? = some s ∧ s.operator? = some operator ∧
      lastCaller? (table.take place) operator = some previous ∧
      e.level = .trace ∧ e.origin = .mapping ∧
      e.message = s.method ++ " overrides " ++ previous.method ++ " for " ++ operator ++
        " via " ++ s.pointer := by
  simp only [overrideAt?, Option.bind_eq_bind, Option.bind_eq_some_iff] at h
  obtain ⟨s, hs, operator, hop, previous, hlast, he⟩ := h
  cases he
  exact ⟨s, operator, previous, hs, hop, hlast, rfl, rfl, rfl⟩

theorem level_of_mem_overridesIn {table : List Slot} {e : Event} (h : e ∈ overridesIn table) :
    e.level = .trace := by
  obtain ⟨place, -, hplace⟩ := List.mem_filterMap.1 h
  obtain ⟨_, _, _, -, -, -, hlevel, -⟩ := report_of_overrideAt? hplace
  exact hlevel

/-- First places, last methods, and a journal of every override. The keys of the map of operators
are the operators of the table, each once and in the order of their first slots; the method of each
is that of its last slot. The journal has one trace to each slot after another one with its
operator, in the order of the table, whose text names the method of the slot, that of the nearest
slot before it with the operator, the operator and the pointer of the slot. It ends with one more
record, whose text names the number of keys. Traces and keys together are as many as the slots with
an opcode. -/
theorem operators_keep_first_places_and_last_methods (table : List Slot) :
    (operators table).value.keys.Nodup ∧
    (∀ operator, operator ∈ (operators table).value.keys ↔
      ∃ s ∈ table, s.operator? = some operator) ∧
    ((operators table).value.keys.Pairwise fun a b => firstPlace table a < firstPlace table b) ∧
    (∀ operator, (operators table).value.find? operator =
      (lastCaller? table operator).map Slot.method) ∧
    (∃ last : Event, (operators table).events = overridesIn table ++ [last] ∧
      last.level = .debug ∧ last.origin = .mapping ∧
      last.message = "built binary operator mapping with " ++
        toString (operators table).value.keys.length ++ " opcodes") ∧
    (∀ place, (overrideAt? table place).isSome = true ↔
      ∃ s operator, table[place]? = some s ∧ s.operator? = some operator ∧
        ∃ earlier ∈ table.take place, earlier.operator? = some operator) ∧
    (∀ place e, overrideAt? table place = some e →
      ∃ s operator previous, table[place]? = some s ∧ s.operator? = some operator ∧
        lastCaller? (table.take place) operator = some previous ∧
        e.level = .trace ∧ e.origin = .mapping ∧
        e.message = s.method ++ " overrides " ++ previous.method ++ " for " ++ operator ++
          " via " ++ s.pointer) ∧
    (overridesIn table).length + (operators table).value.keys.length =
      (table.filter fun s => s.opcode.isSome).length := by
  have h := entered_foldl table
  refine ⟨(operators table).value.nodup, h.mem_keys, h.sorted, h.find?, ?_,
    isSome_overrideAt?_iff table, fun _ _ => report_of_overrideAt?, h.count⟩
  rw [OrderedMap.length_keys]
  exact ⟨.operatorsMapped _, congrArg (· ++ [Event.operatorsMapped _]) h.events, rfl, rfl, rfl⟩

/-- Control: three slots of one operator, with two methods. -/
example :
    let add (method pointer : String) :=
      (Slot.plain method pointer .binary).withOpcode "BINARY_ADD"
    (operators [add "a" "p", add "b" "q", add "a" "r"]).events =
      [.overridden "b" "a" "ADD" "q", .overridden "a" "b" "ADD" "r", .operatorsMapped 1] := by
  decide +kernel

end TypeSlots.Dispatch
