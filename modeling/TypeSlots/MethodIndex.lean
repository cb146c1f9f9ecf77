import TypeSlots.Journal
import TypeSlots.OrderedMap
import TypeSlots.Slot.Basic

/-!
# The index of methods

A table of slots grouped by method. The methods keep the order of their first slots, and the slots
of a method keep the order of the table.
-/

set_option autoImplicit false

namespace TypeSlots

/-- Slots grouped by method. -/
structure MethodIndex where
  groups : OrderedMap String (List Slot)

namespace MethodIndex

/-- The index of a table. -/
def ofTable (table : List Slot) : MethodIndex where
  groups := table.foldl (fun m s => m.push s.method s) .empty

/-- The index of a table, with the report that it was made. -/
def build (table : List Slot) : Logged MethodIndex :=
  let index := ofTable table
  (Logged.quiet index).report (.slotsIndexed table.length index.groups.size)

/-- The slots of a method. -/
def lookup (index : MethodIndex) (method : String) : List Slot :=
  (index.groups.find? method).getD []

/-- Whether a method has slots. -/
def contains (index : MethodIndex) (method : String) : Bool :=
  index.groups.contains method

/-- The methods that have slots. -/
def methods (index : MethodIndex) : List String :=
  index.groups.keys

end MethodIndex

end TypeSlots
