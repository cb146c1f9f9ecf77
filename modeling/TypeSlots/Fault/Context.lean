import TypeSlots.Fault.Basic

/-!
# Contexts around a result

Contexts are added to a result one after the other, each wrapping the failure that the ones before
it left. `stages` keeps every intermediate result, and for each step how often its message was
worked out, which tells a step that ran from one that only passed a success on.
-/

set_option autoImplicit false

namespace TypeSlots

/-- A context to add to a result: a message at hand, or one to be worked out when needed. -/
inductive Context where
  | given (message : String)
  | computed (message : String)
  deriving DecidableEq

/-- The message of a context. -/
def Context.message : Context → String
  | given message => message
  | computed message => message

/-- A result, and how often the step that led to it worked out its message. -/
structure Stage (α : Type) where
  result : Except Fault α
  calls : Nat

namespace Context

variable {α : Type}

/-- Working out a message, as a computation that counts itself. -/
def counted (message : String) : StateM Nat Problem := do
  modify (· + 1)
  return .note message

/-- The result with one context added. -/
def apply : Context → Except Fault α → Stage α
  | given message, result => ⟨Fault.explain (.note message) result, 0⟩
  | computed message, result =>
    let (result, calls) := (Fault.explainWith (counted message) result).run 0
    ⟨result, calls⟩

/-- The stages after each context in turn. -/
def stagesAfter (result : Except Fault α) : List Context → List (Stage α)
  | [] => []
  | step :: steps =>
    let stage := step.apply result
    stage :: stagesAfter stage.result steps

/-- The stages of a result to which contexts are added: itself, then one to a context. -/
def stages (result : Except Fault α) (steps : List Context) : List (Stage α) :=
  ⟨result, 0⟩ :: stagesAfter result steps

end Context

end TypeSlots
