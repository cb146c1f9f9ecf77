import TypeSlots.Comparison
import TypeSlots.Journal
import TypeSlots.OrderedMap
import TypeSlots.Slot.Basic

/-!
# Dispatch

From an operator or a comparison to the method that implements it. Both maps are derived from a
table, row by row. A key stays where its first row put it and has the method of its last row; every
override of an operator is reported.
-/

set_option autoImplicit false

namespace TypeSlots.Dispatch

/-- The report that a slot overrides the method of an operator, if there is a method already. -/
def overrides (m : OrderedMap String String) (operator : String) (s : Slot) : List Event :=
  match m.find? operator with
  | none => []
  | some previous => [.overridden s.method previous operator s.pointer]

/-- The map of operators with one more slot entered. -/
def enter (m : Logged (OrderedMap String String)) (s : Slot) : Logged (OrderedMap String String) :=
  match s.operator? with
  | none => m
  | some operator => ⟨m.value.insert operator s.method, m.events ++ overrides m.value operator s⟩

/-- The operators of a table with their methods. -/
def operators (table : List Slot) : Logged (OrderedMap String String) :=
  let built := table.foldl enter (.quiet .empty)
  built.report (.operatorsMapped built.value.size)

/-- The map of comparisons with one more comparison entered, if it calls a method. -/
def enterComparison (m : OrderedMap UInt8 String) (c : Comparison) : OrderedMap UInt8 String :=
  match c.method with
  | none => m
  | some method => m.insert c.index method

/-- The indices of a table of comparisons with their methods. -/
def comparisons (table : List Comparison) : Logged (OrderedMap UInt8 String) :=
  let built := table.foldl enterComparison .empty
  (Logged.quiet built).report (.comparisonsMapped built.size)

end TypeSlots.Dispatch
