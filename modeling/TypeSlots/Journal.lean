import TypeSlots.Version

/-!
# The journal

Some computations report what they did. A report is an event; its severity, the part of the library
that it comes from and its wording are read off the event. `Logged` is a value together with the
events on the way to it, and `Event.upTo` keeps the events that a reader of a given level sees.
-/

set_option autoImplicit false

namespace TypeSlots

/-- The severity of an event, from the most to the least severe. -/
inductive Level where
  | error
  | warn
  | info
  | debug
  | trace
  deriving DecidableEq

namespace Level

/-- The place of a level in the order of severity. -/
def rank : Level → Nat
  | error => 1
  | warn => 2
  | info => 3
  | debug => 4
  | trace => 5

/-- The name of a level. -/
def name : Level → String
  | error => "ERROR"
  | warn => "WARN"
  | info => "INFO"
  | debug => "DEBUG"
  | trace => "TRACE"

end Level

/-- The part of the library that an event comes from. -/
inductive Origin where
  | mapping
  | version
  deriving DecidableEq

/-- Something worth a report. -/
inductive Event where
  /-- A slot gives an operator its method in place of that of an earlier slot. -/
  | overridden (method previous operator pointer : String)
  | operatorsMapped (count : Nat)
  | comparisonsMapped (count : Nat)
  | slotsIndexed (slots methods : Nat)
  | targetChosen (version : Version)
  deriving DecidableEq

namespace Event

/-- The severity of an event. -/
def level : Event → Level
  | overridden .. => .trace
  | _ => .debug

/-- The origin of an event. -/
def origin : Event → Origin
  | targetChosen _ => .version
  | _ => .mapping

/-- The wording of an event. -/
def message : Event → String
  | overridden method previous operator pointer =>
    method ++ " overrides " ++ previous ++ " for " ++ operator ++ " via " ++ pointer
  | operatorsMapped count =>
    "built binary operator mapping with " ++ count.repr ++ " opcodes"
  | comparisonsMapped count =>
    "built compare function mapping with " ++ count.repr ++ " entries"
  | slotsIndexed slots methods =>
    "indexed " ++ slots.repr ++ " slots under " ++ methods.repr ++ " python names"
  | targetChosen version =>
    "target python version " ++ version.text ++ " from " ++ Environment.targetVariable

/-- The events that are at least as severe as a level; none for a reader without a level. -/
def upTo (level : Option Level) (events : List Event) : List Event :=
  match level with
  | none => []
  | some l => events.filter fun e => e.level.rank ≤ l.rank

end Event

/-- A value with the events on the way to it. -/
structure Logged (α : Type) where
  value : α
  events : List Event

namespace Logged

variable {α β : Type}

/-- A value without events. -/
def quiet (value : α) : Logged α where
  value := value
  events := []

/-- A function applied to the value, the events being kept. -/
def map (f : α → β) (x : Logged α) : Logged β where
  value := f x.value
  events := x.events

/-- The value with one more event at the end. -/
def report (x : Logged α) (event : Event) : Logged α where
  value := x.value
  events := x.events ++ [event]

end Logged

end TypeSlots
