import TypeSlots.Fault.Context
import Mathlib.Data.List.Basic

/-!
# The chain of causes under contexts

Adding contexts to a success changes nothing and works out no message (`stages_ok`). Adding them to
a failure puts one problem to a context in front of the fault (`Fault.within`): after each context
the failure is the fault within the contexts so far, and that context has worked out its message
once, if it had to be worked out (`getElem?_stages_error`). The links of such a fault are read off
the contexts backwards, and the chain of the fault that was there first follows them whole
(`message_links_within`, `links_suffix_links_within`).
-/

set_option autoImplicit false

namespace TypeSlots

namespace Fault

/-- A fault and its causes, outermost first. -/
def links (fault : Fault) : List Fault :=
  fault :: fault.causes

/-- A fault with contexts put in front of it one after the other, the last one outermost. -/
def within (fault : Fault) (contexts : List Context) : Fault :=
  contexts.foldl (fun inner context => .wrapped (.note context.message) inner) fault

/-! ## The links of a fault within contexts -/

theorem links_wrapped (problem : Problem) (cause : Fault) :
    (wrapped problem cause).links = wrapped problem cause :: cause.links := rfl

theorem within_cons (fault : Fault) (context : Context) (contexts : List Context) :
    fault.within (context :: contexts) =
      (wrapped (.note context.message) fault).within contexts := rfl

/-- The last context is the outermost one. -/
theorem within_append_singleton (fault : Fault) (contexts : List Context) (context : Context) :
    fault.within (contexts ++ [context]) =
      wrapped (.note context.message) (fault.within contexts) :=
  List.foldl_append

/-- The wordings of the links are those of the contexts, the last one first, and then those of the
fault. -/
theorem message_links_within (fault : Fault) (contexts : List Context) :
    (fault.within contexts).links.map message =
      contexts.reverse.map Context.message ++ fault.links.map message := by
  induction contexts generalizing fault with
  | nil => rfl
  | cons context contexts ih =>
    rw [within_cons, ih, links_wrapped, List.reverse_cons, List.map_append, List.append_assoc]
    rfl

/-- The chain of a fault is kept whole at the end of its chain within contexts. -/
theorem links_suffix_links_within (fault : Fault) (contexts : List Context) :
    fault.links <:+ (fault.within contexts).links := by
  induction contexts generalizing fault with
  | nil => exact List.suffix_refl _
  | cons context contexts ih =>
    have hcause : fault.links <:+ (wrapped (.note context.message) fault).links := by
      rw [links_wrapped]
      exact List.suffix_cons _ _
    rw [within_cons]
    exact hcause.trans (ih _)

/-- A context adds one link. -/
theorem length_links_within (fault : Fault) (contexts : List Context) :
    (fault.within contexts).links.length = contexts.length + fault.links.length := by
  have hlength := congrArg List.length (message_links_within fault contexts)
  simpa using hlength

/-! ## Requirements -/

/-- A requirement is met exactly when its condition holds. -/
theorem require_eq_ok_iff (condition : Bool) (problem : Problem) :
    require condition problem = .ok () ↔ condition = true := by
  cases condition <;> simp [require]

/-- A requirement that is not met fails with its problem, which has no cause. -/
theorem require_eq_error_iff (condition : Bool) (problem : Problem) (fault : Fault) :
    require condition problem = .error fault ↔ condition = false ∧ fault = stated problem := by
  cases condition <;> simp [require, eq_comm]

end Fault

namespace Context

variable {α : Type}

/-- How often a failure has the message of a context worked out. -/
def workings : Context → Nat
  | given _ => 0
  | computed _ => 1

/-! ## One context -/

/-- A context passes a success on, and its message is not worked out. -/
theorem apply_ok (context : Context) (value : α) : context.apply (.ok value) = ⟨.ok value, 0⟩ := by
  cases context <;> rfl

/-- A context wraps a failure, for which its message is worked out once. -/
theorem apply_error (context : Context) (fault : Fault) :
    context.apply (.error fault : Except Fault α) =
      ⟨.error (.wrapped (.note context.message) fault), context.workings⟩ := by
  cases context <;> rfl

/-! ## All contexts -/

theorem stagesAfter_ok (value : α) (contexts : List Context) :
    stagesAfter (.ok value) contexts = List.replicate contexts.length ⟨.ok value, 0⟩ := by
  induction contexts with
  | nil => rfl
  | cons context contexts ih =>
    simp only [stagesAfter, apply_ok, ih]
    rfl

/-- A success stays as it is at every stage, and no message is worked out. -/
theorem stages_ok (value : α) (contexts : List Context) :
    stages (.ok value) contexts = List.replicate (contexts.length + 1) ⟨.ok value, 0⟩ := by
  rw [stages, stagesAfter_ok, List.replicate_succ]

theorem getElem?_stagesAfter_error (fault : Fault) (before : List Context) (context : Context)
    (after : List Context) :
    (stagesAfter (.error fault : Except Fault α) (before ++ context :: after))[before.length]? =
      some ⟨.error (fault.within (before ++ [context])), context.workings⟩ := by
  induction before generalizing fault with
  | nil =>
    simp only [List.nil_append, stagesAfter, apply_error]
    rfl
  | cons first before ih =>
    simp only [List.cons_append, stagesAfter, apply_error, List.length_cons,
      List.getElem?_cons_succ]
    exact ih _

/-- After a context the failure is the fault within the contexts so far. -/
theorem getElem?_stages_error (fault : Fault) (before : List Context) (context : Context)
    (after : List Context) :
    (stages (.error fault : Except Fault α) (before ++ context :: after))[before.length + 1]? =
      some ⟨.error (fault.within (before ++ [context])), context.workings⟩ := by
  rw [stages, List.getElem?_cons_succ]
  exact getElem?_stagesAfter_error fault before context after

/-- There is one stage to a context, after that of the result itself. -/
theorem length_stages (result : Except Fault α) (contexts : List Context) :
    (stages result contexts).length = contexts.length + 1 := by
  rw [stages, List.length_cons]
  congr 1
  induction contexts generalizing result with
  | nil => rfl
  | cons context contexts ih => exact congrArg (· + 1) (ih _)

/-- Contexts keep the whole chain of causes, and their messages are worked out only when needed. A
success, of whatever type and wherever it comes from, is the same after every context, and no
message is worked out for it. A failure has after each context the wording of that context; its
causes are worded by the contexts before it, the last one first, then by the first fault and its
causes, which are kept as they are, so there is one cause more to a context; and the message of
every context that has to be worked out is worked out once. A requirement fails exactly when its
condition does not hold, and a stated problem has no cause. -/
theorem contexts_keep_causes_and_are_lazy :
    (∀ (value : α) (contexts : List Context),
      stages (.ok value) contexts = List.replicate (contexts.length + 1) ⟨.ok value, 0⟩) ∧
    (∀ (result : Except Fault α) (contexts : List Context),
      (stages result contexts).length = contexts.length + 1 ∧
        (stages result contexts)[0]? = some ⟨result, 0⟩) ∧
    (∀ (fault : Fault) (before : List Context) (context : Context) (after : List Context),
      ∃ explained : Fault,
        (stages (.error fault : Except Fault α) (before ++ context :: after))[before.length + 1]? =
          some ⟨.error explained, context.workings⟩ ∧
        explained.message = context.message ∧
        explained.causes.map Fault.message =
          before.reverse.map Context.message ++
            fault.message :: fault.causes.map Fault.message ∧
        fault :: fault.causes <:+ explained.causes ∧
        explained.causes.length = fault.causes.length + (before.length + 1)) ∧
    (∀ (condition : Bool) (problem : Problem),
      (Fault.require condition problem = .ok () ↔ condition = true) ∧
      (∀ fault, Fault.require condition problem = .error fault ↔
        condition = false ∧ fault = .stated problem)) ∧
    (∀ problem : Problem, (Fault.stated problem).message = problem.message ∧
      (Fault.stated problem).causes = []) := by
  refine ⟨stages_ok, fun result contexts => ⟨length_stages result contexts, rfl⟩, ?_,
    fun condition problem => ⟨Fault.require_eq_ok_iff condition problem,
      Fault.require_eq_error_iff condition problem⟩, fun _ => ⟨rfl, rfl⟩⟩
  intro fault before context after
  refine ⟨fault.within (before ++ [context]), getElem?_stages_error fault before context after, ?_⟩
  -- The causes under the last context are the links that the contexts before it left.
  rw [Fault.within_append_singleton]
  refine ⟨rfl, Fault.message_links_within fault before,
    Fault.links_suffix_links_within fault before, ?_⟩
  have hlength : (fault.within before).links.length = before.length + (fault.causes.length + 1) :=
    Fault.length_links_within fault before
  show (fault.within before).links.length = _
  omega

/-- Control: two contexts around the defect of a numeral, the second one worked out. -/
example :
    (stages (.error (.numeral .empty) : Except Fault Unit) [given "inner", computed "outer"]).map
        Stage.calls = [0, 0, 1] ∧
      ((Fault.numeral .empty).within [given "inner", computed "outer"]).report =
        "outer\ncaused by:\n  - 0: inner\n  - 1: cannot parse integer from empty string\n" := by
  decide +kernel

end Context

end TypeSlots
