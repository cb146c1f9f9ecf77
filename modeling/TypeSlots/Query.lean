import TypeSlots.Dispatch
import TypeSlots.Distinct
import TypeSlots.Fault.Context
import TypeSlots.Session.Basic
import TypeSlots.Slot.Recipe
import TypeSlots.Slot.Table
import TypeSlots.Target

/-!
# Queries

Everything that can be asked of the library, each with the type of its answer. A query is answered
from a catalogue, which holds the tables, within a session; only the queries about the target and
about a variable look at the environment there, and only those about the index of methods at the
index.
-/

set_option autoImplicit false

namespace TypeSlots

/-- The tables that queries are answered from. -/
structure Catalogue where
  slots : List Slot
  comparisons : List Comparison

/-- The tables of the library. -/
def Catalogue.standard : Catalogue where
  slots := Slot.table
  comparisons := Comparison.table

/-- A question. -/
inductive Query where
  /-- The tables themselves. -/
  | catalogue
  /-- What the making of the index of methods reports. -/
  | indexReport
  | slotAt (position : Nat)
  | comparisonAt (position : Nat)
  | operators
  /-- The place and the method of one operator. -/
  | operator (name : String)
  | comparisons
  /-- The place and the method of one index. -/
  | comparison (index : UInt8)
  | slotsOfMethod (method : String)
  | slotsOfPointer (pointer : String)
  | slotsInMajor (major : UInt8)
  | reflection (method : String)
  | comparisonWithName (name : String)
  | comparisonWithIndex (index : UInt8)
  /-- Whether the index of methods has a method, and its slots there. -/
  | indexed (method : String)
  | indexedMethods
  | index
  | suite (pointer : String)
  | signature (text : String)
  | availability (text : String)
  /-- Whether the availability that a text names admits a major version. -/
  | admits (text : String) (major : UInt8)
  | version (text : String)
  /-- What the canonical text of a version is read as. -/
  | readBack (version : Version)
  | compareVersions (first second : String)
  | sortVersions (texts : List String)
  | distinctVersions (texts : List String)
  | distinctAvailabilities (texts : List String)
  | distinctSignatures (texts : List String)
  /-- The slots that a recipe goes through. -/
  | slotStates (recipe : Recipe String String)
  /-- The positions of the recipes whose slot is not that of an earlier one. -/
  | distinctSlots (recipes : List (Recipe String String))
  /-- The stages of a result to which contexts are added. -/
  | explained (result : Except Fault String) (contexts : List Context)
  | variableValue (name : VariableName)
  | targetVersion
  | targetSlots

namespace Query

/-- The type of the answer to a question. -/
abbrev Answer : Query → Type
  | catalogue => Catalogue
  | indexReport => List Event
  | slotAt _ => Option Slot
  | comparisonAt _ => Option Comparison
  | operators => OrderedMap String String
  | operator _ => Option Nat × Option String
  | comparisons => OrderedMap UInt8 String
  | comparison _ => Option Nat × Option String
  | slotsOfMethod _ => List Slot
  | slotsOfPointer _ => List Slot
  | slotsInMajor _ => List Slot
  | reflection _ => Option String
  | comparisonWithName _ => Option Comparison
  | comparisonWithIndex _ => Option Comparison
  | indexed _ => Bool × List Slot
  | indexedMethods => List String
  | index => MethodIndex
  | suite _ => Option Suite
  | signature _ => Except Fault Signature
  | availability _ => Except Fault Availability
  | admits _ _ => Except Fault Bool
  | version _ => Except Fault Version
  | readBack _ => Except Fault Version
  | compareVersions _ _ => Except Fault Version.Standing
  | sortVersions _ => Except Fault (List String)
  | distinctVersions _ => Except Fault (List String)
  | distinctAvailabilities _ => Except Fault (List String)
  | distinctSignatures _ => Except Fault (List String)
  | slotStates _ => Except Fault (List Slot)
  | distinctSlots _ => Except Fault (List Nat)
  | explained _ _ => List (Stage String)
  | variableValue _ => Option (List UInt8)
  | targetVersion => Except Fault (Option Version)
  | targetSlots => Except Fault (List Slot)

/-- The place of a key in a map, and its value. -/
def entry {κ : Type} [DecidableEq κ] (m : OrderedMap κ String) (key : κ) :
    Option Nat × Option String :=
  (m.position? key, m.find? key)

/-- The answer to a question, given within a session. -/
def answer (tables : Catalogue) : (q : Query) → StateM Session (Logged q.Answer)
  | catalogue => return .quiet tables
  | indexReport => return .quiet (Session.indexReport tables.slots)
  | slotAt position => return .quiet tables.slots[position]?
  | comparisonAt position => return .quiet tables.comparisons[position]?
  | operators => return Dispatch.operators tables.slots
  | operator name => return (Dispatch.operators tables.slots).map fun m => entry m name
  | comparisons => return Dispatch.comparisons tables.comparisons
  | comparison i => return (Dispatch.comparisons tables.comparisons).map fun m => entry m i
  | slotsOfMethod method => return .quiet (Lookup.ofMethod tables.slots method)
  | slotsOfPointer pointer => return .quiet (Lookup.ofPointer tables.slots pointer)
  | slotsInMajor major => return .quiet (Lookup.inMajor tables.slots major)
  | reflection method => return .quiet (Lookup.reflection? tables.slots method)
  | comparisonWithName name => return .quiet (Comparison.withName? tables.comparisons name)
  | comparisonWithIndex i => return .quiet (Comparison.withIndex? tables.comparisons i)
  | indexed method => do
    let made ← Session.index tables.slots
    return made.map fun index => (index.contains method, index.lookup method)
  | indexedMethods => do
    let made ← Session.index tables.slots
    return made.map MethodIndex.methods
  | index => Session.index tables.slots
  | suite pointer => return .quiet (Suite.ofPointer? pointer)
  | signature text => return .quiet (Signature.parse text)
  | availability text => return .quiet (Availability.parse text)
  | admits text major => return .quiet ((Availability.parse text).map fun a => a.admits major)
  | version text => return .quiet (Version.parse text)
  | readBack v => return .quiet (Version.parse v.text)
  | compareVersions first second => return .quiet (Version.compareTexts first second)
  | sortVersions texts => return .quiet (Version.sortTexts texts)
  | distinctVersions texts => return .quiet (Distinct.versions texts)
  | distinctAvailabilities texts => return .quiet (Distinct.availabilities texts)
  | distinctSignatures texts => return .quiet (Distinct.signatures texts)
  | slotStates recipe => return .quiet (recipe.read.map Recipe.states)
  | distinctSlots recipes =>
    return .quiet
      ((recipes.mapM Recipe.read).map fun rs => Distinct.positions (rs.map Recipe.build))
  | explained result contexts => return .quiet (Context.stages result contexts)
  | variableValue name => do
    let session ← get
    return .quiet (session.environment.get? name)
  | targetVersion => do
    let session ← get
    return Target.version session.environment
  | targetSlots => do
    let session ← get
    return Target.slots tables.slots session.environment

end Query

end TypeSlots
