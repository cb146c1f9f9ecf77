import TypeSlots.Slot.Basic

/-!
# The table of slots

All slots of the type object and its suites: first those of the type object itself, then number,
mapping and sequence slots. An operator that several suites implement has one slot in each, so its
opcode occurs more than once; the order of the table is the order in which tables derived from it
list their keys.
-/

set_option autoImplicit false

namespace TypeSlots.Slot

/-- The two halves of a binary number slot: the method, which the opcode calls, and its
reflection. -/
def numberPair (method reflection pointer : String) (opcode : Option String) : List Slot := [
  { (plain method pointer .binaryNumber).withIndex 0 with opcode := opcode },
  (plain reflection pointer .binaryNumber).withIndex 1]

/-- The slots of the type object itself. -/
def typeObjectSlots : List Slot := [
  plain "__new__" "tp_new" .new,
  plain "__init__" "tp_init" .init,
  plain "__str__" "tp_print" .print,
  plain "__repr__" "tp_repr" .repr,
  plain "__hash__" "tp_hash" .hash,
  plain "__call__" "tp_call" .call,
  plain "__getattribute__" "tp_getattro" .getAttr,
  plain "__getattr__" "tp_getattro" .getAttr,
  plain "__setattr__" "tp_setattro" .setAttr,
  plain "__delattr__" "tp_setattro" .setAttr,
  plain "__iter__" "tp_iter" .unary,
  (plain "next" "tp_iternext" .next).withAvailability .python2,
  (plain "__next__" "tp_iternext" .next).withAvailability .python3,
  plain "__get__" "tp_descr_get" .descrGet,
  plain "__set__" "tp_descr_set" .descrSet,
  plain "__delete__" "tp_descr_set" .descrDelete,
  plain "__del__" "tp_del" .destructor,
  (plain "__cmp__" "tp_compare" .cmp).withAvailability .python2,
  plain "__lt__" "tp_richcompare" .richCmp,
  plain "__le__" "tp_richcompare" .richCmp,
  plain "__eq__" "tp_richcompare" .richCmp,
  plain "__ne__" "tp_richcompare" .richCmp,
  plain "__gt__" "tp_richcompare" .richCmp,
  plain "__ge__" "tp_richcompare" .richCmp,
  plain "__richcompare__" "tp_richcompare" .richCmp]

/-- The number slots that a method shares with its reflection. -/
def pairedNumberSlots : List Slot := List.flatten [
  numberPair "__add__" "__radd__" "nb_add" (some "BINARY_ADD"),
  numberPair "__sub__" "__rsub__" "nb_subtract" (some "BINARY_SUBTRACT"),
  numberPair "__mul__" "__rmul__" "nb_multiply" none,
  numberPair "__div__" "__rdiv__" "nb_divide" (some "BINARY_DIVIDE"),
  numberPair "__mod__" "__rmod__" "nb_remainder" (some "BINARY_MODULO"),
  numberPair "__divmod__" "__rdivmod__" "nb_divmod" none,
  numberPair "__lshift__" "__rlshift__" "nb_lshift" (some "BINARY_LSHIFT"),
  numberPair "__rshift__" "__rrshift__" "nb_rshift" (some "BINARY_RSHIFT"),
  numberPair "__and__" "__rand__" "nb_and" (some "BINARY_AND"),
  numberPair "__xor__" "__rxor__" "nb_xor" (some "BINARY_XOR"),
  numberPair "__or__" "__ror__" "nb_or" (some "BINARY_OR"),
  numberPair "__floordiv__" "__rfloordiv__" "nb_floor_divide" (some "BINARY_FLOOR_DIVIDE"),
  numberPair "__truediv__" "__rtruediv__" "nb_true_divide" (some "BINARY_TRUE_DIVIDE")]

/-- The number slots of one method each: unary operations, conversions, and operations in place. -/
def singleNumberSlots : List Slot := [
  (plain "__pow__" "nb_power" .ternary).withOpcode "BINARY_POWER",
  plain "__rpow__" "nb_power" .ternary,
  (plain "__neg__" "nb_negative" .unary).withOpcode "UNARY_NEGATIVE",
  (plain "__pos__" "nb_positive" .unary).withOpcode "UNARY_POSITIVE",
  plain "__abs__" "nb_absolute" .unary,
  plain "__nonzero__" "nb_nonzero" .inquiry,
  (plain "__invert__" "nb_invert" .unary).withOpcode "UNARY_INVERT",
  plain "__coerce__" "nb_coerce" .coercion,
  plain "__int__" "nb_int" .unary,
  plain "__long__" "nb_long" .unary,
  plain "__float__" "nb_float" .unary,
  plain "__oct__" "nb_oct" .unary,
  plain "__hex__" "nb_hex" .unary,
  (plain "__iadd__" "nb_inplace_add" .binary).withOpcode "INPLACE_ADD",
  (plain "__isub__" "nb_inplace_subtract" .binary).withOpcode "INPLACE_SUBTRACT",
  (plain "__imul__" "nb_inplace_multiply" .binary).withOpcode "INPLACE_MUL",
  (plain "__idiv__" "nb_inplace_divide" .binary).withOpcode "INPLACE_DIV",
  (plain "__irem__" "nb_inplace_remainder" .binary).withOpcode "INPLACE_MODULO",
  (plain "__ipow__" "nb_inplace_power" .ternary).withOpcode "INPLACE_POWER",
  (plain "__ilshift__" "nb_inplace_lshift" .binary).withOpcode "INPLACE_LSHIFT",
  (plain "__irshift__" "nb_inplace_rshift" .binary).withOpcode "INPLACE_RSHIFT",
  (plain "__iand__" "nb_inplace_and" .binary).withOpcode "INPLACE_AND",
  (plain "__ixor__" "nb_inplace_xor" .binary).withOpcode "INPLACE_XOR",
  (plain "__ior__" "nb_inplace_or" .binary).withOpcode "INPLACE_OR",
  (plain "__ifloordiv__" "nb_inplace_floor_divide" .binary).withOpcode "INPLACE_FLOOR_DIVIDE",
  (plain "__itruediv__" "nb_inplace_true_divide" .binary).withOpcode "INPLACE_TRUE_DIVIDE",
  plain "__index__" "nb_index" .unary]

/-- The slots of the mapping suite. -/
def mappingSlots : List Slot := [
  (plain "__getitem__" "mp_subscript" .binary).withOpcode "BINARY_SUBSCR",
  (plain "__delitem__" "mp_ass_subscript" .objObjArg).withIndex 0,
  (plain "__setitem__" "mp_ass_subscript" .objObjArg).withIndex 1,
  plain "__len__" "mp_length" .len]

/-- The slots of the sequence suite. -/
def sequenceSlots : List Slot := [
  plain "__contains__" "sq_contains" .objObj,
  (plain "__add__" "sq_concat" .binary).withOpcode "BINARY_ADD",
  (plain "__mul__" "sq_repeat" .indexArg).withOpcode "BINARY_MULTIPLY",
  (plain "__iadd__" "sq_inplace_concat" .binary).withOpcode "INPLACE_ADD",
  (plain "__imul__" "sq_inplace_repeat" .indexArg).withOpcode "INPLACE_MUL",
  (plain "__getitem__" "sq_item" .seqItem).withOpcode "BINARY_SUBSCR",
  plain "__setitem__" "sq_ass_slice" .seqAssItem,
  plain "__delitem__" "sq_ass_item" .seqDelItem,
  plain "__getslice__" "sq_slice" .seqSlice,
  plain "__setslice__" "sq_ass_slice" .ssizeSsizeObjArg,
  plain "__delslice__" "sq_ass_slice" .delSlice]

/-- All slots. -/
def table : List Slot :=
  typeObjectSlots ++ pairedNumberSlots ++ singleNumberSlots ++ mappingSlots ++ sequenceSlots

/-- No row of the table occurs twice. -/
theorem nodup_table : table.Nodup := by
  decide +kernel

/-- Control: the table has 93 rows, and every pointer belongs to a suite. -/
example : table.length = 93 ∧ table.all (fun s => s.suite?.isSome) = true := by
  decide +kernel

end TypeSlots.Slot
