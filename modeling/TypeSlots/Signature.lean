import TypeSlots.Fault.Basic

/-!
# Signatures

The C type of the function pointer in a slot. A signature has a tag, under which tables and texts
name it; `parse` finds the signature with a tag.
-/

set_option autoImplicit false

namespace TypeSlots

/-- The C type of a function pointer. -/
inductive Signature where
  | new
  | init
  | print
  | repr
  | hash
  | call
  | getAttr
  | setAttr
  | unary
  | next
  | descrGet
  | descrSet
  | descrDelete
  | destructor
  | cmp
  | richCmp
  /-- A binary number operation, shared by a method and its reflection. -/
  | binaryNumber
  | binary
  | ternary
  | inquiry
  | coercion
  | objObjArg
  | len
  | objObj
  | indexArg
  | seqItem
  | seqAssItem
  | seqDelItem
  | seqSlice
  | ssizeSsizeObjArg
  | delSlice
  deriving DecidableEq

namespace Signature

/-- Every signature. -/
def all : List Signature := [
    new, init, print, repr, hash, call, getAttr, setAttr, unary, next, descrGet, descrSet,
    descrDelete, destructor, cmp, richCmp, binaryNumber, binary, ternary, inquiry, coercion,
    objObjArg, len, objObj, indexArg, seqItem, seqAssItem, seqDelItem, seqSlice, ssizeSsizeObjArg,
    delSlice]

/-- The tag of a signature. -/
def tag : Signature → String
  | new => "new"
  | init => "init"
  | print => "print"
  | repr => "repr"
  | hash => "hash"
  | call => "call"
  | getAttr => "getattro"
  | setAttr => "setattro"
  | unary => "unary"
  | next => "next"
  | descrGet => "descr_get"
  | descrSet => "descr_set"
  | descrDelete => "descr_delete"
  | destructor => "destructor"
  | cmp => "cmp"
  | richCmp => "richcmpfunc"
  | binaryNumber => "binary_nb"
  | binary => "binary"
  | ternary => "ternary"
  | inquiry => "inquiry"
  | coercion => "coercion"
  | objObjArg => "objobjargproc"
  | len => "len"
  | objObj => "objobjproc"
  | indexArg => "indexargfunc"
  | seqItem => "sq_item"
  | seqAssItem => "sq_ass_item"
  | seqDelItem => "sq_delitem"
  | seqSlice => "sq_slice"
  | ssizeSsizeObjArg => "ssizessizeobjarg"
  | delSlice => "delslice"

/-- The signature with a tag. -/
def ofTag? (tag : String) : Option Signature :=
  all.find? fun s => s.tag == tag

/-- The signature that a text names, which is its tag and nothing else. -/
def parse (text : String) : Except Fault Signature :=
  match ofTag? text with
  | some s => .ok s
  | none => .error (.stated (.signatureUnknown text))

/-- Every signature is found by its tag. -/
theorem ofTag?_tag (s : Signature) : ofTag? s.tag = some s := by
  cases s <;> decide

end Signature

end TypeSlots
