import TypeSlots.Query

/-!
# Sessions

A session is a sequence of requests. Variables are set and unset as the session goes on, and every
question is answered within the session as the requests before it have left it. Every request has
one reply (`length_proceed`), and a session can be cut anywhere (`proceed_append`).
-/

set_option autoImplicit false

namespace TypeSlots

/-- A change of the environment, or a question. -/
inductive Request where
  | set (name : VariableName) (value : List UInt8)
  | unset (name : VariableName)
  | ask (query : Query)

namespace Request

/-- The type of the answer to a request. -/
abbrev Answer : Request → Type
  | set _ _ => Unit
  | unset _ => Unit
  | ask query => query.Answer

/-- The answer to a request, given within a session. -/
def answer (tables : Catalogue) : (r : Request) → StateM Session (Logged r.Answer)
  | set name value => do
    modify fun session => { session with environment := session.environment.set name value }
    return .quiet ()
  | unset name => do
    modify fun session => { session with environment := session.environment.unset name }
    return .quiet ()
  | ask query => query.answer tables

end Request

/-- A request with its answer. -/
structure Reply where
  request : Request
  answer : Logged request.Answer

namespace Session

/-- The replies to some requests, in order, and the session after them. -/
def proceed (tables : Catalogue) (session : Session) : List Request → List Reply × Session
  | [] => ([], session)
  | r :: rs =>
    let answered := r.answer tables session
    let others := proceed tables answered.2 rs
    (⟨r, answered.1⟩ :: others.1, others.2)

/-- The replies to some requests and the environment after them, the index having been made
before. -/
def run (tables : Catalogue) (env : Environment) (rs : List Request) : List Reply × Environment :=
  let (replies, last) := proceed tables (opened tables.slots env) rs
  (replies, last.environment)

theorem proceed_cons (tables : Catalogue) (session : Session) (r : Request) (rs : List Request) :
    proceed tables session (r :: rs) =
      (⟨r, (r.answer tables session).1⟩ :: (proceed tables (r.answer tables session).2 rs).1,
        (proceed tables (r.answer tables session).2 rs).2) := rfl

/-- Every request has one reply. -/
theorem length_proceed (tables : Catalogue) (session : Session) (rs : List Request) :
    (proceed tables session rs).1.length = rs.length := by
  induction rs generalizing session with
  | nil => rfl
  | cons r rs ih => exact congrArg (· + 1) (ih (r.answer tables session).2)

/-- A session goes on from what its first part leaves. -/
theorem proceed_append (tables : Catalogue) (session : Session) (past rest : List Request) :
    proceed tables session (past ++ rest) =
      ((proceed tables session past).1 ++
          (proceed tables (proceed tables session past).2 rest).1,
        (proceed tables (proceed tables session past).2 rest).2) := by
  induction past generalizing session with
  | nil => rfl
  | cons r past ih =>
    rw [List.cons_append, proceed_cons, proceed_cons, ih, List.cons_append]

end Session

end TypeSlots
