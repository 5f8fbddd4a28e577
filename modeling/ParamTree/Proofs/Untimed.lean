import ParamTree.Parameterizer
import ParamTree.Proofs.EvaluatedParts
import ParamTree.Proofs.Reaching

/-!
# Evaluation without a time limit

An evaluation that looks at the clock either goes on as if it had not looked or ends with a timeout.
So an evaluator that reports no timeout has the result, and makes the invocations, that the
expression has by itself, whatever the limit is. Main statements: `Expr.evaluate_punctual` and
`Evaluator.eq_ok_iff_reaches`.
-/

namespace ParamTree

open Plan (run_ask_answered run trace trace_ask_answered)
open Evaluation

variable {σ : Type}

/-- A call of a callable with as many arguments as it takes. -/
structure Invocation where
  name : String
  args : List Json
deriving DecidableEq

namespace ParameterSet

/-- Any other call fails before it reaches the callable. -/
def invoked (params : ParameterSet σ) : ScopeQuestion → World σ → List Invocation
  | .invoke name args, _ =>
    if params.entry? name = some (.function args.length) then [⟨name, args⟩] else []
  | .lookup _, _ => []
  | .deadline, _ => []

theorem entry?_of_call {params : ParameterSet σ} {name : String} {args : List Json}
    {value : Json} {world after : World σ}
    (h : params.call name args world = (some (.ok value), after)) :
    params.entry? name = some (.function args.length) := by
  apply entry?_of_call_ne_error
  intro message hError
  rw [h] at hError
  cases hError

/-- The invocations that the answer to a question makes, if expressions are evaluated in place. -/
def invokedBy (params : ParameterSet σ) (limit : Duration) :
    TemplateQuestion → World σ → List Invocation
  | .evaluate text, world =>
    match Expr.ofText text with
    | .error _ => []
    | .ok expr => expr.evaluate.trace (params.answer limit world.now) params.invoked world
  | .lookup _, _ => []
  | .invoke name args, world => params.invoked (.invoke name args) world

def answerUntimed (params : ParameterSet σ) : (question : ScopeQuestion) → Act σ question.Answer
  | .lookup name, world => (some (params.entry? name), world)
  | .invoke name args, world => params.call name args world
  | .deadline, world => (some none, world)

end ParameterSet

def Parameterizer.invocations {α : Type} (engine : Parameterizer σ) (params : ParameterSet σ)
    (plan : Template α) (world : World σ) : List Invocation :=
  plan.trace (params.answerTemplate engine.evaluator engine.config.timeout)
    (params.invokedBy engine.config.timeout) world

/-- The document is resolved by the evaluator, to the value and with the invocations. -/
abbrev Template.Reaches {α : Type} (evaluator : Evaluator σ) (params : ParameterSet σ)
    (limit : Duration) (plan : Template α) (world : World σ) (value : α) (calls : List Invocation)
    (after : World σ) : Prop :=
  Plan.Reaches (params.answerTemplate evaluator limit) (params.invokedBy limit) plan world value
    calls after

/-- The evaluation comes to the value if no time limit ends it. -/
abbrev Evaluation.Reaches {α : Type} (params : ParameterSet σ) (plan : Evaluation α)
    (world : World σ) (value : α) (calls : List Invocation) (after : World σ) : Prop :=
  Plan.Reaches params.answerUntimed params.invoked plan world value calls after

def Evaluator.TimedOut {α : Type} (result : Option (Except EvalError α)) : Prop :=
  ∃ limit, result = some (.error (.timeout limit))

theorem Evaluator.not_timedOut {α : Type} {result : Option (Except EvalError α)} {value : α}
    (h : result = some (.ok value)) : ¬TimedOut result := by
  rintro ⟨limit, hTimeout⟩
  cases h.symm.trans hTimeout

namespace Evaluation

variable {α β : Type}

/-- Where the time has run out, the plan fails at once. -/
inductive Punctual : Evaluation α → Prop where
  | done (value : α) : Punctual (.done value)
  | fail (error : EvalError) : Punctual (.fail error)
  | ask {question : ScopeQuestion} {next : question.Answer → Evaluation α} :
    question ≠ .deadline → (∀ reply, Punctual (next reply)) → Punctual (.ask question next)
  | inTime {plan : Evaluation α} : Punctual plan → Punctual (inTime plan)

theorem Punctual.bind {plan : Evaluation α} {f : α → Evaluation β} (h : Punctual plan)
    (hf : ∀ value, Punctual (f value)) : Punctual (plan >>= f) := by
  induction h with
  | done value => exact hf value
  | fail error => exact .fail error
  | ask hQuestion _ ih => exact .ask hQuestion ih
  | inTime _ ih =>
    rw [inTime_bind]
    exact .inTime ih

theorem punctual_valueOf (name : String) : Punctual (valueOf name) := by
  have hQuestion : ScopeQuestion.lookup name ≠ .deadline := nofun
  apply Punctual.ask hQuestion
  rintro (_ | _ | _)
  · exact .fail _
  · exact .done _
  · exact .fail _

theorem punctual_callWith (callee : String) {args : Evaluation (List Json)} (h : Punctual args) :
    Punctual (callWith callee args) := by
  have hQuestion : ScopeQuestion.lookup callee ≠ .deadline := nofun
  apply Punctual.ask hQuestion
  rintro (_ | _ | _)
  · exact .fail _
  · exact .fail _
  · apply h.bind
    intro values
    have hQuestion : ScopeQuestion.invoke callee values ≠ .deadline := nofun
    apply Punctual.ask hQuestion
    rintro (_ | _)
    · exact .fail _
    · exact .inTime (.done _)

theorem closedUnderEvaluation_punctual : ClosedUnderEvaluation fun plan => Punctual plan := by
  constructor
  case done => exact Punctual.done
  case fail => exact Punctual.fail
  case bind => exact Punctual.bind
  case inTime => exact Punctual.inTime
  case valueOf => exact punctual_valueOf
  case callWith => exact punctual_callWith

end Evaluation

theorem Expr.evaluate_punctual (expr : Expr) : expr.evaluate.Punctual :=
  evaluate_induction closedUnderEvaluation_punctual expr

theorem ParameterSet.answer_of_ne_deadline (params : ParameterSet σ) (limit : Duration)
    (start : Nat) {question : ScopeQuestion} (h : question ≠ .deadline) :
    params.answer limit start question = params.answerUntimed question := by
  cases question with
  | lookup _ | invoke _ _ => rfl
  | deadline => exact (h rfl).elim

section Clock

variable {α γ : Type} {answer : (question : ScopeQuestion) → Act σ question.Answer}
  {world : World σ}

theorem Evaluation.run_inTime (h : answer .deadline world = (some none, world))
    (plan : Evaluation α) : (inTime plan).run answer world = plan.run answer world := by
  simp only [inTime, run, h]

theorem Evaluation.trace_inTime (h : answer .deadline world = (some none, world))
    (note : ScopeQuestion → World σ → List γ) (plan : Evaluation α) :
    (inTime plan).trace answer note world =
      note .deadline world ++ plan.trace answer note world := by
  simp only [inTime, trace, h]

end Clock

/-- A run against a clock ends with a timeout or is the run without one. -/
theorem Evaluation.Punctual.run_untimed {α γ : Type} {plan : Evaluation α} (h : Punctual plan)
    (params : ParameterSet σ) (limit : Duration) (start : Nat)
    (note : ScopeQuestion → World σ → List γ) (world : World σ) :
    Evaluator.TimedOut (plan.run (params.answer limit start) world).1 ∨
      plan.run (params.answer limit start) world = plan.run params.answerUntimed world ∧
        plan.trace (params.answer limit start) note world =
          plan.trace params.answerUntimed note world := by
  induction h generalizing world with
  | done value => exact .inr ⟨rfl, rfl⟩
  | fail error => exact .inr ⟨rfl, rfl⟩
  | @ask question next hQuestion _ ih =>
    rw [run, run, trace, trace, params.answer_of_ne_deadline limit start hQuestion]
    rcases params.answerUntimed question world with ⟨_ | reply, after⟩
    · exact .inr ⟨rfl, rfl⟩
    · obtain hTimeout | ⟨hRun, hTrace⟩ := ih reply after
      · exact .inl hTimeout
      · exact .inr ⟨hRun, congrArg _ hTrace⟩
  | inTime _ ih =>
    cases hClock : limit.exceeded start world.now with
    | true =>
      have hAnswer : params.answer limit start .deadline world = (some (some limit), world) := by
        rw [ParameterSet.answer, hClock]
        rfl
      refine .inl ⟨limit, ?_⟩
      rw [Evaluation.inTime, run_ask_answered _ hAnswer]
      rfl
    | false =>
      have hAnswer : params.answer limit start .deadline world = (some none, world) := by
        rw [ParameterSet.answer, hClock]
        rfl
      rw [run_inTime hAnswer, run_inTime rfl, trace_inTime hAnswer, trace_inTime rfl]
      obtain hTimeout | ⟨hRun, hTrace⟩ := ih world
      · exact .inl hTimeout
      · exact .inr ⟨hRun, congrArg (note .deadline world ++ ·) hTrace⟩

theorem Evaluation.reaches_inTime_iff {α : Type} {plan : Evaluation α} {params : ParameterSet σ}
    {world after : World σ} {value : α} {calls : List Invocation} :
    Evaluation.Reaches params (inTime plan) world value calls after ↔
      Evaluation.Reaches params plan world value calls after := by
  rw [Reaches, Plan.Reaches, run_inTime rfl, trace_inTime rfl]
  rfl

theorem Expr.reaches_literal {params : ParameterSet σ} (value : Json) (world : World σ) :
    (literal value).evaluate.Reaches params world (some value) [] world := by
  rw [evaluate, Evaluation.reaches_inTime_iff]
  exact ⟨rfl, rfl⟩

namespace Evaluator

/-- Without a timeout, the clock leaves no trace in what an evaluator does. What it makes of a crash
is its own affair. -/
theorem exists_untimed {evaluator : Evaluator σ}
    (h : evaluator = cooperative ∨ evaluator = standard) :
    ∃ lost : Option (Except EvalError (Option Json)),
      (lost = none ∨ ∃ cause, lost = some (.error cause)) ∧
      ∀ {text : String} {expr : Expr}, Expr.ofText text = .ok expr →
        ∀ {params : ParameterSet σ} {limit : Duration} {world : World σ},
        ¬TimedOut (evaluator text params limit world).1 →
          evaluator text params limit world =
              ((expr.evaluate.run params.answerUntimed world).1.or lost,
                (expr.evaluate.run params.answerUntimed world).2) ∧
            params.invokedBy limit (.evaluate text) world =
              expr.evaluate.trace params.answerUntimed params.invoked world := by
  have hInvoked : ∀ {text : String} {expr : Expr}, Expr.ofText text = .ok expr →
      ∀ (params : ParameterSet σ) limit world, params.invokedBy limit (.evaluate text) world =
        expr.evaluate.trace (params.answer limit world.now) params.invoked world := by
    intro text expr hText params limit world
    rw [ParameterSet.invokedBy, hText]
  obtain rfl | rfl := h
  · refine ⟨none, .inl rfl, ?_⟩
    intro text expr hText params limit world hTime
    have hRun : cooperative text params limit world =
        expr.evaluate.run (params.answer limit world.now) world := by
      rw [cooperative, hText]
    obtain hTimeout | ⟨hSame, hTrace⟩ :=
      expr.evaluate_punctual.run_untimed params limit world.now params.invoked world
    · exact (hTime (hRun ▸ hTimeout)).elim
    · rw [hRun, hInvoked hText, Option.or_none]
      exact ⟨hSame, hTrace⟩
  · refine ⟨some (.error workerLost), .inr ⟨_, rfl⟩, ?_⟩
    intro text expr hText params limit world hTime
    have hRun : standard text params limit world =
        if limit.exceeded world.now
            (expr.evaluate.run (params.answer limit world.now) world).2.now then
          (some (.error (.timeout limit)),
            ⟨(expr.evaluate.run (params.answer limit world.now) world).2.state,
              world.now + limit.nanoseconds⟩)
        else
          (some ((expr.evaluate.run (params.answer limit world.now) world).1.getD
            (.error workerLost)), (expr.evaluate.run (params.answer limit world.now) world).2) := by
      simp only [standard, isolated, cooperative, hText]
    rw [hRun] at hTime ⊢
    split at hTime
    · exact (hTime ⟨limit, rfl⟩).elim
    · rename_i hClock
      rw [if_neg hClock, hInvoked hText]
      obtain ⟨cause, hCause⟩ | ⟨hSame, hTrace⟩ :=
        expr.evaluate_punctual.run_untimed params limit world.now params.invoked world
      · rw [hCause] at hTime
        exact (hTime ⟨cause, rfl⟩).elim
      · rw [hSame]
        cases (expr.evaluate.run params.answerUntimed world).1 with
        | none => exact ⟨rfl, hTrace⟩
        | some result => exact ⟨rfl, hTrace⟩

/-- An evaluator that reports no timeout succeeds exactly where the expression by itself does. -/
theorem eq_ok_iff_reaches {evaluator : Evaluator σ}
    (h : evaluator = cooperative ∨ evaluator = standard) {text : String} {expr : Expr}
    (hText : Expr.ofText text = .ok expr) {params : ParameterSet σ} {limit : Duration}
    {world : World σ} (hTime : ¬TimedOut (evaluator text params limit world).1)
    {result : Option Json} {calls : List Invocation} {after : World σ} :
    (evaluator text params limit world = (some (.ok result), after) ∧
        params.invokedBy limit (.evaluate text) world = calls) ↔
      expr.evaluate.Reaches params world result calls after := by
  obtain ⟨lost, hLost, hUntimed⟩ := exists_untimed h
  obtain ⟨hRun, hCalls⟩ := hUntimed hText hTime
  have hOk : (expr.evaluate.run params.answerUntimed world).1.or lost = some (.ok result) ↔
      (expr.evaluate.run params.answerUntimed world).1 = some (.ok result) := by
    cases (expr.evaluate.run params.answerUntimed world).1 with
    | none => obtain rfl | ⟨cause, rfl⟩ := hLost <;> simp
    | some _ => rw [Option.some_or]
  rw [hRun, hCalls, Evaluation.Reaches, Plan.Reaches, Prod.ext_iff, Prod.ext_iff, hOk]

end Evaluator

end ParamTree
