import TypeSlots.Environment
import TypeSlots.MethodIndex

/-!
# What lasts in a session

A session holds the variables and the index of methods. The index is made when it is asked for the
first time, which is reported, and it is kept from then on.
-/

set_option autoImplicit false

namespace TypeSlots

/-- What one question leaves to the next. -/
@[ext] structure Session where
  environment : Environment
  /-- The index of methods, once it has been made. -/
  index? : Option MethodIndex

namespace Session

/-- A session in which the index has not been asked for. -/
def fresh (env : Environment) : Session where
  environment := env
  index? := none

/-- The index of a table: the one that is there, or else one that is made now and kept. -/
def index (table : List Slot) : StateM Session (Logged MethodIndex) := fun session =>
  match session.index? with
  | some made => (.quiet made, session)
  | none =>
    let made := MethodIndex.build table
    (made, { session with index? := some made.value })

/-- A session for which the index was asked for before it starts. -/
def opened (table : List Slot) (env : Environment) : Session :=
  (index table (fresh env)).2

/-- What is reported when a new session is asked twice for the index. -/
def indexReport (table : List Slot) : List Event :=
  let (first, session) := index table (fresh .empty)
  let (second, _) := index table session
  first.events ++ second.events

end Session

end TypeSlots
