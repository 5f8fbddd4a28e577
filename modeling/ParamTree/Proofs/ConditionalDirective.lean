import ParamTree.Proofs.Passages
import ParamTree.Proofs.TemplateParts
import ParamTree.Proofs.Untimed

/-!
# Conditionals as directives and as expressions

A directive whose branches are expressions resolves to what the conditional expression of the same
parts evaluates to, or fails for the same cause. Both decide alike, evaluate only the branch that is
taken, and make the same invocations. Main statement: `conditional_directive_agrees`.
-/

namespace ParamTree

open Plan

/-- What went wrong in the evaluation that failed. -/
def TemplateFault.cause? : TemplateFault → Option EvalError
  | .evaluation _ _ cause => some cause
  | .timedOut _ _ limit => some (.timeout limit)
  | .unresolved _ _ | .invalidFilter _ _ | .mismatch _ _ _ => none

def TemplateError.cause? (error : TemplateError) : Option EvalError :=
  error.fault.cause?

theorem TemplateFault.cause?_ofEvaluation (expression fragment : String) (cause : EvalError) :
    (ofEvaluation expression fragment cause).cause? = some cause := by
  cases cause <;> rfl

namespace Template

variable {α β σ : Type}

def TimedOut (result : Option (Except TemplateError α)) : Prop :=
  ∃ error limit, result = some (.error error) ∧ error.cause? = some (.timeout limit)

/-- A document and an evaluation come to the same value, or to a failure of the same cause. A crash
of the evaluation stays one, or is reported as `lost`. -/
inductive SameOutcome (lost : Option (Except EvalError (Option Json))) :
    Option (Except TemplateError α) → Option (Except EvalError α) → Prop where
  | value (value : α) : SameOutcome lost (some (.ok value)) (some (.ok value))
  | failure {error : TemplateError} {cause : EvalError} :
    error.cause? = some cause → SameOutcome lost (some (.error error)) (some (.error cause))
  | crash : lost = none → SameOutcome lost none none
  | report {error : TemplateError} {cause : EvalError} :
    error.cause? = some cause → lost = some (.error cause) →
    SameOutcome lost (some (.error error)) none

theorem SameOutcome.eq_ok_iff {lost : Option (Except EvalError (Option Json))}
    {result : Option (Except TemplateError α)} {result' : Option (Except EvalError α)}
    (h : SameOutcome lost result result') (value : α) :
    result = some (.ok value) ↔ result' = some (.ok value) := by
  cases h <;> simp

/-- Two documents that fail like one evaluation fail for the same cause. -/
theorem SameOutcome.failures_agree {lost : Option (Except EvalError (Option Json))}
    {result other : Option (Except TemplateError α)} {result' : Option (Except EvalError α)}
    (h : SameOutcome lost result result') (hOther : SameOutcome lost other result')
    {error : TemplateError} (hError : result = some (.error error)) :
    ∃ error' cause, other = some (.error error') ∧ error.cause? = some cause ∧
      error'.cause? = some cause := by
  cases h with
  | value value => cases hError
  | crash hLost => cases hError
  | failure hCause =>
    cases hError
    cases hOther with
    | failure hCause' => exact ⟨_, _, rfl, hCause, hCause'⟩
  | report hCause hLost =>
    cases hError
    cases hOther with
    | crash hNone => cases hNone.symm.trans hLost
    | report hCause' hLost' =>
      cases hLost.symm.trans hLost'
      exact ⟨_, _, rfl, hCause, hCause'⟩

section Mirrors

variable (params : ParameterSet σ) (evaluator : Evaluator σ) (limit : Duration)
  (lost : Option (Except EvalError (Option Json)))

/-- A run of the plan that does not time out comes to what the evaluation comes to, in the same
world and with the same invocations. -/
def Mirrors (plan : Template α) (evaluation : Evaluation α) : Prop :=
  ∀ (world after : World σ) (result : Option (Except TemplateError α)),
    plan.run (params.answerTemplate evaluator limit) world = (result, after) → ¬TimedOut result →
    ∃ result', evaluation.run params.answerUntimed world = (result', after) ∧
      SameOutcome lost result result' ∧
      plan.trace (params.answerTemplate evaluator limit) (params.invokedBy limit) world =
        evaluation.trace params.answerUntimed params.invoked world

variable {params evaluator limit lost}

theorem Mirrors.inTime {plan : Template α} {evaluation : Evaluation α}
    (h : Mirrors params evaluator limit lost plan evaluation) :
    Mirrors params evaluator limit lost plan (Evaluation.inTime evaluation) := by
  intro world after result hRun hTime
  rw [Evaluation.run_inTime rfl, Evaluation.trace_inTime rfl]
  exact h world after result hRun hTime

theorem Mirrors.under {plan : Template α} {evaluation : Evaluation α}
    (h : Mirrors params evaluator limit lost plan evaluation) (segment : PathSegment) :
    Mirrors params evaluator limit lost (Template.under segment plan) evaluation := by
  intro world after result hRun hTime
  rw [Template.under, run_mapError] at hRun
  rw [Template.under, trace_mapError]
  rcases hPlan : plan.run (params.answerTemplate evaluator limit) world with ⟨inner, middle⟩
  rw [hPlan] at hRun
  cases hRun
  have hInner : ¬TimedOut inner := by
    rintro ⟨error, time, rfl, hCause⟩
    exact hTime ⟨error.under segment, time, rfl, hCause⟩
  obtain ⟨result', hEvaluation, hOutcome, hTrace⟩ := h world middle inner hPlan hInner
  refine ⟨result', hEvaluation, ?_, hTrace⟩
  cases hOutcome with
  | value value => exact .value value
  | failure hCause => exact .failure hCause
  | crash hLost => exact .crash hLost
  | report hCause hLost => exact .report hCause hLost

theorem Mirrors.bind {plan : Template α} {evaluation : Evaluation α} {f : α → Template β}
    {g : α → Evaluation β} (h : Mirrors params evaluator limit lost plan evaluation)
    (hf : ∀ value, Mirrors params evaluator limit lost (f value) (g value)) :
    Mirrors params evaluator limit lost (plan >>= f) (evaluation >>= g) := by
  intro world after result hRun hTime
  rw [run_bind] at hRun
  rw [run_bind, trace_bind, trace_bind]
  rcases hPlan : plan.run (params.answerTemplate evaluator limit) world with ⟨first, middle⟩
  rw [hPlan] at hRun
  have hFirst : ¬TimedOut first := by
    rintro ⟨error, time, rfl, hCause⟩
    cases hRun
    exact hTime ⟨error, time, rfl, hCause⟩
  obtain ⟨first', hEvaluation, hOutcome, hTrace⟩ := h world middle first hPlan hFirst
  rw [hTrace, hPlan, hEvaluation]
  cases hOutcome with
  | value value =>
    obtain ⟨result', hNext, hOutcome, hTrace⟩ := hf value middle after result hRun hTime
    exact ⟨result', hNext, hOutcome, congrArg _ hTrace⟩
  | failure hCause =>
    cases hRun
    exact ⟨_, rfl, .failure hCause, rfl⟩
  | crash hLost =>
    cases hRun
    exact ⟨_, rfl, .crash hLost, rfl⟩
  | report hCause hLost =>
    cases hRun
    exact ⟨_, rfl, .report hCause hLost, rfl⟩

end Mirrors

/-- What an evaluator that works on the parsed expression makes of a crash, and that it mirrors the
evaluation otherwise. -/
theorem exists_mirrors {evaluator : Evaluator σ}
    (h : evaluator = .cooperative ∨ evaluator = .standard) :
    ∃ lost, ∀ {text : String} {expr : Expr}, Expr.ofText text = .ok expr →
      ∀ (params : ParameterSet σ) (limit : Duration) (fragment : String),
        Mirrors params evaluator limit lost (evaluate text fragment) expr.evaluate := by
  obtain ⟨lost, hLost, hUntimed⟩ := Evaluator.exists_untimed h
  refine ⟨lost, ?_⟩
  intro text expr hText params limit fragment world after result hRun hTime
  rcases hAnswer : evaluator text params limit world with ⟨answer, middle⟩
  have hEvaluate : (evaluate text fragment).run (params.answerTemplate evaluator limit) world =
      (answer.map (Except.mapError fun cause => .ofFault (.ofEvaluation text fragment cause)),
        middle) := by
    rw [run_evaluate, ParameterSet.answerTemplate, hAnswer]
  have hTrace : (evaluate text fragment).trace (params.answerTemplate evaluator limit)
      (params.invokedBy limit) world = params.invokedBy limit (.evaluate text) world :=
    trace_evaluate _ _ _ _ _
  rw [hEvaluate] at hRun
  cases hRun
  have hAnswerTime : ¬Evaluator.TimedOut (evaluator text params limit world).1 := by
    rintro ⟨time, hTimeout⟩
    rw [hAnswer] at hTimeout
    cases hTimeout
    exact hTime ⟨.ofFault (.timedOut text fragment time), time, rfl, rfl⟩
  obtain ⟨hSame, hInvoked⟩ := hUntimed hText hAnswerTime
  rw [hTrace, hInvoked]
  rw [hAnswer] at hSame
  rcases hEvaluation : expr.evaluate.run params.answerUntimed world with ⟨result', after⟩
  rw [hEvaluation] at hSame
  obtain ⟨rfl, rfl⟩ := Prod.mk.inj hSame
  refine ⟨result', hEvaluation, ?_, rfl⟩
  rcases result' with _ | cause | value
  · obtain rfl | ⟨cause, rfl⟩ := hLost
    · exact .crash rfl
    · exact .report (TemplateFault.cause?_ofEvaluation text fragment cause) rfl
  · exact .failure (TemplateFault.cause?_ofEvaluation text fragment cause)
  · exact .value value

end Template

/-- A conditional with each of its parts in parentheses. -/
def conditionalText (condition yes no : String) : String :=
  "(" ++ condition ++ ") ? (" ++ yes ++ ") : (" ++ no ++ ")"

namespace Json

def evaluationOf (text : String) : Json :=
  .object [(evalKey, .string text)]

def conditionalOf (condition yes no : String) : Json :=
  .object [(ifKey, .string condition), (thenKey, evaluationOf yes), (elseKey, evaluationOf no)]

end Json

theorem Expr.conditional_of_ofText {condition yes no : String} {c y n whole : Expr}
    (hCondition : ofText condition = .ok c) (hYes : ofText yes = .ok y) (hNo : ofText no = .ok n)
    (hWhole : ofText (conditionalText condition yes no) = .ok whole) :
    whole = .conditional c y n := by
  have hPassage := Grammar.Passage.conditional
    ((Grammar.Passage.of_ofText hCondition).group.postfixed.operand.level (Nat.zero_le 6) le_rfl)
    ((Grammar.Passage.of_ofText hYes).group.postfixed.operand.expression (Nat.zero_le 6))
    ((Grammar.Passage.of_ofText hNo).group.postfixed.operand.expression (Nat.zero_le 6))
  refine Grammar.Passage.eq_of_ofText ?_ hWhole
  simpa [conditionalText] using hPassage

namespace Substitution

variable {config : Config} (hStrict : config.isLenient = false)
include hStrict

theorem walk_evaluationOf (text : String) :
    walk config (.evaluationOf text) =
      Template.under (.key evalKey) (Template.evaluate text text) := by
  change Template.orKeep config.isLenient _ _ = _
  rw [hStrict]
  rfl

theorem walk_conditionalOf (condition yes no : String) :
    walk config (.conditionalOf condition yes no) = (do
      let result ← Template.under (.key ifKey) (Template.evaluate condition condition)
      if truthy result then
        Template.under (.key thenKey) (walk config (.evaluationOf yes))
      else
        Template.under (.key elseKey) (walk config (.evaluationOf no))) := by
  change Template.orKeep config.isLenient _ _ = _
  rw [hStrict]
  rfl

/-- Both kinds of documents mirror the evaluation of their expressions, with one report of a
crash. -/
theorem exists_mirrors {σ : Type} {evaluator : Evaluator σ}
    (h : evaluator = .cooperative ∨ evaluator = .standard) (params : ParameterSet σ)
    (limit : Duration) :
    ∃ lost, (∀ {text : String} {e : Expr}, Expr.ofText text = .ok e →
        Template.Mirrors params evaluator limit lost (walk config (.evaluationOf text))
          e.evaluate) ∧
      ∀ {condition yes no : String} {c y n : Expr}, Expr.ofText condition = .ok c →
        Expr.ofText yes = .ok y → Expr.ofText no = .ok n →
        Template.Mirrors params evaluator limit lost (walk config (.conditionalOf condition yes no))
          (Expr.conditional c y n).evaluate := by
  obtain ⟨lost, hMirrors⟩ := Template.exists_mirrors h
  have hOperator : ∀ {text : String} {e : Expr}, Expr.ofText text = .ok e →
      Template.Mirrors params evaluator limit lost (walk config (.evaluationOf text))
        e.evaluate := by
    intro text e hText
    rw [walk_evaluationOf hStrict]
    exact (hMirrors hText params limit text).under _
  refine ⟨lost, hOperator, ?_⟩
  intro condition yes no c y n hCondition hYes hNo
  rw [walk_conditionalOf hStrict, Expr.evaluate]
  apply Template.Mirrors.inTime
  apply ((hMirrors hCondition params limit condition).under _).bind
  intro result
  split
  · exact (hOperator hYes).under _
  · exact (hOperator hNo).under _

end Substitution

namespace Parameterizer

variable {σ : Type}

/-- A conditional directive over expressions and the expression that is their conditional have the
same results, a value or none, after the same invocations, and fail for the same causes. -/
theorem conditional_directive_agrees (engine : Parameterizer σ)
    (hStrict : engine.config.policy = .strict)
    (hEvaluator : engine.evaluator = .cooperative ∨ engine.evaluator = .standard)
    {condition yes no : String} (hCondition : ∃ e, Expr.ofText condition = .ok e)
    (hYes : ∃ e, Expr.ofText yes = .ok e) (hNo : ∃ e, Expr.ofText no = .ok e)
    (hWhole : ∃ e, Expr.ofText (conditionalText condition yes no) = .ok e)
    (params : ParameterSet σ) (world : World σ) :
    let directive : Json := .conditionalOf condition yes no
    let operator : Json := .evaluationOf (conditionalText condition yes no)
    ¬Template.TimedOut (engine.substitute directive params world).1 →
    ¬Template.TimedOut (engine.substitute operator params world).1 →
    (∀ result, (engine.substitute directive params world).1 = some (.ok result) ↔
      (engine.substitute operator params world).1 = some (.ok result)) ∧
    (∀ error, (engine.substitute directive params world).1 = some (.error error) →
      ∃ other cause, (engine.substitute operator params world).1 = some (.error other) ∧
        error.cause? = some cause ∧ other.cause? = some cause) ∧
    (∀ error, (engine.substitute operator params world).1 = some (.error error) →
      ∃ other cause, (engine.substitute directive params world).1 = some (.error other) ∧
        error.cause? = some cause ∧ other.cause? = some cause) ∧
    engine.invocations params (Substitution.walk engine.config directive) world =
      engine.invocations params (Substitution.walk engine.config operator) world ∧
    (engine.substitute directive params world).2 = (engine.substitute operator params world).2 := by
  intro directive operator hTime hTime'
  obtain ⟨c, hCondition⟩ := hCondition
  obtain ⟨y, hYes⟩ := hYes
  obtain ⟨n, hNo⟩ := hNo
  obtain ⟨whole, hWhole⟩ := hWhole
  obtain rfl := Expr.conditional_of_ofText hCondition hYes hNo hWhole
  have hLenient : engine.config.isLenient = false := by
    rw [Config.isLenient, hStrict]
    rfl
  obtain ⟨lost, hOperator, hDirective⟩ :=
    Substitution.exists_mirrors hLenient hEvaluator params engine.config.timeout
  obtain ⟨result, hRun, hOutcome, hTrace⟩ := hDirective hCondition hYes hNo _ _ _ rfl hTime
  obtain ⟨result', hRun', hOutcome', hTrace'⟩ := hOperator hWhole _ _ _ rfl hTime'
  obtain ⟨rfl, hWorld⟩ := Prod.mk.inj (hRun.symm.trans hRun')
  refine ⟨?_, ?_, ?_, hTrace.trans hTrace'.symm, hWorld⟩
  · exact fun value => (hOutcome.eq_ok_iff value).trans (hOutcome'.eq_ok_iff value).symm
  · exact fun error hError => hOutcome.failures_agree hOutcome' hError
  · exact fun error hError => hOutcome'.failures_agree hOutcome hError

theorem conditional_directive_agrees_counting_callable :
    let next : Callable Nat := ⟨0, fun _ count => (⟨.value (.ofNat count), ⟨5⟩⟩, count + 1)⟩
    let params : ParameterSet Nat := ⟨[("next", .callable next), ("a", .value (.string "x"))]⟩
    let engine : Parameterizer Nat := .isolated .standard
    let directive : Json := .conditionalOf "next()" "a" "next()"
    let operator : Json := .evaluationOf (conditionalText "next()" "a" "next()")
    conditionalText "next()" "a" "next()" = "(next()) ? (a) : (next())" ∧
    (engine.substitute directive params ⟨0, 0⟩).1 = some (.ok (some (.ofNat 1))) ∧
    (engine.substitute operator params ⟨0, 0⟩).1 = some (.ok (some (.ofNat 1))) ∧
    engine.invocations params (Substitution.walk engine.config directive) ⟨0, 0⟩ =
      engine.invocations params (Substitution.walk engine.config operator) ⟨0, 0⟩ := by
  intro next params engine directive operator
  have hDirective : (engine.substitute directive params ⟨0, 0⟩).1 =
      some (.ok (some (.ofNat 1))) := by decide +kernel
  have hOperator : (engine.substitute operator params ⟨0, 0⟩).1 =
      some (.ok (some (.ofNat 1))) := by decide +kernel
  have hInTime : ¬Template.TimedOut (some (.ok (some (Json.ofNat 1)))) := by
    rintro ⟨error, limit, hError, -⟩
    cases hError
  have hNext : ∃ e, Expr.ofText "next()" = .ok e := Except.exists_eq_ok (by decide +kernel)
  have hName : ∃ e, Expr.ofText "a" = .ok e := Except.exists_eq_ok (by decide +kernel)
  have hWhole : ∃ e, Expr.ofText (conditionalText "next()" "a" "next()") = .ok e :=
    Except.exists_eq_ok (by decide +kernel)
  have hAgree := conditional_directive_agrees engine rfl (.inr rfl) hNext hName hNext hWhole params
    ⟨0, 0⟩ (by rw [hDirective]; exact hInTime) (by rw [hOperator]; exact hInTime)
  exact ⟨by decide, hDirective, (hAgree.1 _).mp hDirective, hAgree.2.2.2.1⟩

end Parameterizer

end ParamTree
