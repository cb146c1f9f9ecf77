import TypeSlots.Comparison
import TypeSlots.MethodIndex

/-!
# Inspection

The full text of a value, for a reader who wants to see every field. Texts inside are quoted, so the
parts of a value cannot run into each other.
-/

set_option autoImplicit false

namespace TypeSlots

namespace Inspect

/-- A value that may be absent. -/
def optional {α : Type} (inspect : α → String) : Option α → String
  | none => "None"
  | some a => "Some(" ++ inspect a ++ ")"

/-- A number of one octet. -/
def octet (b : UInt8) : String :=
  b.toNat.repr

/-- Parts separated by commas. -/
def listed (parts : List String) : String :=
  ", ".intercalate parts

/-- A named group of named fields. -/
def fields (name : String) (parts : List (String × String)) : String :=
  name ++ " \x7b " ++ listed (parts.map fun p => p.1 ++ ": " ++ p.2) ++ " \x7d"

end Inspect

open Inspect Text

/-- The full text of a signature. -/
def Signature.inspect : Signature → String
  | .new => "New"
  | .init => "Init"
  | .print => "Print"
  | .repr => "Repr"
  | .hash => "Hash"
  | .call => "Call"
  | .getAttr => "GetAttrO"
  | .setAttr => "SetAttrO"
  | .unary => "Unary"
  | .next => "Next"
  | .descrGet => "DescrGet"
  | .descrSet => "DescrSet"
  | .descrDelete => "DescrDelete"
  | .destructor => "Destructor"
  | .cmp => "Cmp"
  | .richCmp => "RichCmpFunc"
  | .binaryNumber => "BinaryNb"
  | .binary => "Binary"
  | .ternary => "Ternary"
  | .inquiry => "Inquiry"
  | .coercion => "Coercion"
  | .objObjArg => "ObjObjArgProc"
  | .len => "Len"
  | .objObj => "ObjObjProc"
  | .indexArg => "IndexArgFunc"
  | .seqItem => "SqItem"
  | .seqAssItem => "SqAssItem"
  | .seqDelItem => "SqDelItem"
  | .seqSlice => "SqSlice"
  | .ssizeSsizeObjArg => "SsizeSsizeObjArg"
  | .delSlice => "DelSlice"

/-- The full text of a suite. -/
def Suite.inspect : Suite → String
  | .typeObject => "TypeObject"
  | .number => "Number"
  | .sequence => "Sequence"
  | .mapping => "Mapping"

/-- The full text of an availability. -/
def Availability.inspect : Availability → String
  | .python2 => "Py2"
  | .python3 => "Py3"
  | .any => "Any"

/-- The full text of a version. -/
def Version.inspect (v : Version) : String :=
  fields "PythonVersion" [("major", octet v.major), ("minor", octet v.minor)]

/-- The full text of a slot. -/
def Slot.inspect (s : Slot) : String :=
  fields "Slot" [
    ("python_name", quoted s.method),
    ("c_name", quoted s.pointer),
    ("function_type", s.signature.inspect),
    ("index", optional octet s.index),
    ("opcode", optional quoted s.opcode),
    ("python_version", s.availability.inspect)]

/-- The full text of a comparison. -/
def Comparison.inspect (c : Comparison) : String :=
  fields "CompareOp" [
    ("op", quoted c.name),
    ("index", octet c.index),
    ("magic", optional quoted c.method)]

/-- The full text of the index of methods. -/
def MethodIndex.inspect (index : MethodIndex) : String :=
  let group (g : String × List Slot) :=
    quoted g.1 ++ ": [" ++ listed (g.2.map Slot.inspect) ++ "]"
  let groups := listed (index.groups.entries.map group)
  fields "SlotIndex" [("by_python_name", "\x7b" ++ groups ++ "\x7d")]

/-- The full text of a numeral's defect. -/
def Numeral.Defect.inspect : Numeral.Defect → String
  | .empty => "Empty"
  | .invalidDigit => "InvalidDigit"
  | .tooLarge => "PosOverflow"

/-- The full text of a fault with its causes. -/
def Fault.inspect : Fault → String
  | .numeral defect => fields "ParseIntError" [("kind", defect.inspect)]
  | .stated problem => fields "Error" [("value", quoted problem.message), ("source", "None")]
  | .wrapped problem cause =>
    fields "Error" [
      ("value", quoted problem.message),
      ("source", "Some(" ++ cause.inspect ++ ")")]

end TypeSlots
