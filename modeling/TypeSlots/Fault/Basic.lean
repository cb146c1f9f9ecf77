import TypeSlots.Fault.Problem
import TypeSlots.Numeral

/-!
# Faults and their causes

A fault is a chain: a problem may have a cause, which may have a cause in turn, and a chain may end
in the defect of a numeral. `causes` lists the chain, `report` writes it out line by line, the lines
being counted in 32 bits, and `explain` and `explainWith` put a problem in front of a failure.
-/

set_option autoImplicit false

namespace TypeSlots

/-- A failure with everything that led to it. -/
inductive Fault where
  /-- A text is no numeral. -/
  | numeral (defect : Numeral.Defect)
  /-- A problem without a cause. -/
  | stated (problem : Problem)
  /-- A problem with its cause. -/
  | wrapped (problem : Problem) (cause : Fault)
  deriving DecidableEq

namespace Fault

/-- The wording of the outermost link. -/
def message : Fault → String
  | numeral defect => defect.message
  | stated problem => problem.message
  | wrapped problem _ => problem.message

/-- The immediate cause. -/
def cause? : Fault → Option Fault
  | wrapped _ cause => some cause
  | _ => none

/-- The chain of causes, outermost first. -/
def causes : Fault → List Fault
  | wrapped _ cause => cause :: cause.causes
  | _ => []

/-- The line of a report for the cause with a given number. -/
def reportLine (number : Int32) (text : String) : String :=
  "  - " ++ number.toInt.repr ++ ": " ++ text ++ "\n"

/-- The lines of a report for a fault and its causes, numbered from `number`. After the greatest
number of 32 bits comes the least. -/
def reportFrom (number : Int32) : Fault → String
  | wrapped problem cause => reportLine number problem.message ++ cause.reportFrom (number + 1)
  | fault => reportLine number fault.message

/-- A fault with its chain of causes, one line to a cause. -/
def report (fault : Fault) : String :=
  match fault.cause? with
  | none => fault.message
  | some cause => fault.message ++ "\ncaused by:\n" ++ cause.reportFrom 0

variable {α : Type}

/-- A success, or a failure with a problem put in front of it. -/
def explain (problem : Problem) : Except Fault α → Except Fault α
  | .ok value => .ok value
  | .error fault => .error (wrapped problem fault)

/-- Like `explain`, with a problem that has to be worked out first: that is done for a failure
only. -/
def explainWith {m : Type → Type} [Monad m] (problem : m Problem) :
    Except Fault α → m (Except Fault α)
  | .ok value => pure (.ok value)
  | .error fault => do return .error (wrapped (← problem) fault)

/-- A problem at hand is put in front in the same way, however late it is asked for. -/
theorem run_explainWith (problem : Problem) (result : Except Fault α) :
    Id.run (explainWith (pure problem) result) = explain problem result := by
  cases result <;> rfl

/-- A failure to state if a condition does not hold. -/
def require (condition : Bool) (problem : Problem) : Except Fault Unit :=
  if condition then .ok () else .error (stated problem)

end Fault

end TypeSlots
