import ParamTree.Expr.Evaluation
import ParamTree.Expr.Parser

/-!
# Evaluators

An evaluator gives the result of an expression text for given parameters and a time limit. The
cooperative one evaluates in place, so that a crash of a callable is a crash of its own. The
isolated one lets another evaluator work apart from its caller: a crash becomes an error, and an
answer that comes too late is not waited for.
-/

namespace ParamTree

abbrev Evaluator (σ : Type) : Type :=
  String → ParameterSet σ → Duration → Act σ (Except EvalError (Option Json))

variable {σ : Type}

/-- A limit of no time at all has run out at once. -/
def Duration.exceeded (limit : Duration) (start now : Nat) : Bool :=
  limit.nanoseconds = 0 || start + limit.nanoseconds < now

def EvalError.ofSyntaxError (error : SyntaxError) : EvalError :=
  .malformed error.fault.message error.offset

namespace ParameterSet

def answer (params : ParameterSet σ) (limit : Duration) (start : Nat) :
    (question : ScopeQuestion) → Act σ question.Answer
  | .lookup name, world => (some (params.entry? name), world)
  | .invoke name args, world => params.call name args world
  | .deadline, world => (some (if limit.exceeded start world.now then some limit else none), world)

end ParameterSet

namespace Evaluator

def cooperative : Evaluator σ := fun text params limit world =>
  match Expr.ofText text with
  | .error error => (some (.error (.ofSyntaxError error)), world)
  | .ok expr => expr.evaluate.run (params.answer limit world.now) world

def workerLost : EvalError :=
  .runtime "evaluator worker terminated unexpectedly"

def isolated (inner : Evaluator σ) : Evaluator σ := fun text params limit start =>
  let (result, world) := inner text params limit start
  if limit.exceeded start.now world.now then
    (some (.error (.timeout limit)), ⟨world.state, start.now + limit.nanoseconds⟩)
  else
    (some (result.getD (.error workerLost)), world)

def standard : Evaluator σ :=
  isolated cooperative

end Evaluator

end ParamTree
