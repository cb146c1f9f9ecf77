/-!
# Comparisons

The comparisons that one opcode makes, told apart by its argument, the index. The first six call a
rich comparison method; the interpreter does the others itself. The last two share an index.
-/

set_option autoImplicit false

namespace TypeSlots

/-- A comparison with its index and the method that it calls, if there is one. -/
structure Comparison where
  name : String
  index : UInt8
  method : Option String
  deriving DecidableEq

namespace Comparison

/-- All comparisons. -/
def table : List Comparison := [
  ⟨"LT", 0, some "__lt__"⟩,
  ⟨"LE", 1, some "__le__"⟩,
  ⟨"EQ", 2, some "__eq__"⟩,
  ⟨"NE", 3, some "__ne__"⟩,
  ⟨"GT", 4, some "__gt__"⟩,
  ⟨"GE", 5, some "__ge__"⟩,
  ⟨"IN", 6, none⟩,
  ⟨"NOT_IN", 7, none⟩,
  ⟨"IS", 8, none⟩,
  ⟨"IS_NOT", 9, none⟩,
  ⟨"EXC_MATCH", 9, none⟩]

/-- The first comparison of a table with a name. -/
def withName? (table : List Comparison) (name : String) : Option Comparison :=
  table.find? fun c => c.name == name

/-- The first comparison of a table with an index. -/
def withIndex? (table : List Comparison) (index : UInt8) : Option Comparison :=
  table.find? fun c => c.index == index

end Comparison

end TypeSlots
