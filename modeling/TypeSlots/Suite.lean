/-!
# Suites of slots

A type object holds some slots itself and others in three structures of its own, one each for the
number, sequence and mapping protocols. The first three characters of a pointer's name, its stem,
tell the suite. No two suites share a stem.
-/

set_option autoImplicit false

namespace TypeSlots

/-- The structure that holds a slot. -/
inductive Suite where
  | typeObject
  | number
  | sequence
  | mapping
  deriving DecidableEq

namespace Suite

/-- Every suite. -/
def all : List Suite :=
  [typeObject, number, sequence, mapping]

/-- The start of the names of a suite's pointers. -/
def stem : Suite → String
  | typeObject => "tp_"
  | number => "nb_"
  | sequence => "sq_"
  | mapping => "mp_"

/-- The name of a suite. -/
def name : Suite → String
  | typeObject => "typeobject"
  | number => "number"
  | sequence => "sequence"
  | mapping => "mapping"

/-- Whether a pointer's name belongs to a suite. -/
def claims (s : Suite) (pointer : String) : Bool :=
  s.stem.toList.isPrefixOf pointer.toList

/-- The suite of a pointer, told by its name. -/
def ofPointer? (pointer : String) : Option Suite :=
  all.find? fun s => s.claims pointer

end Suite

end TypeSlots
