import ParamTree.Proofs.CallTimes
import ParamTree.Proofs.Fallback
import ParamTree.Proofs.Overlaps
import ParamTree.Proofs.TemplateParts

/-!
# Slow and crashing callables of a document

An evaluator that works apart from its caller turns a callable that is too slow, or crashes, into an
error like any other: a strict document fails with it, and a lenient one keeps its text. The stages
of a pipeline call their callables themselves and are apart from nobody. Main statements:
`Evaluator.standard_of_mishap` and `Parameterizer.contains_iff`.
-/

namespace ParamTree

variable {σ α β : Type}

instance : DecidablePred CallReply.Crashes := fun ⟨outcome, _⟩ =>
  match outcome with
  | .crash => .isTrue rfl
  | .value _ => .isFalse nofun
  | .failure _ => .isFalse nofun

/-- The error that stands for the replies if they take too long, or one of them is a crash. -/
def Duration.mishap? (limit : Duration) (replies : List CallReply) : Option EvalError :=
  if limit.Overrun replies then some (.timeout limit)
  else if ∃ reply ∈ replies, reply.Crashes then some Evaluator.workerLost
  else none

/-- What goes wrong with the callables that a question of a document reaches. -/
def ParameterSet.mishaps (params : ParameterSet σ) (limit : Duration) :
    TemplateQuestion → World σ → List EvalError
  | .evaluate text, world => (limit.mishap? (params.repliesTo limit text world)).toList
  | .invoke name args, world => (limit.mishap? (params.replies (.invoke name args) world)).toList
  | .lookup _, _ => []

namespace Evaluator

variable (params : ParameterSet σ) (limit : Duration) (text : String) (world : World σ)

theorem standard_isSome : (standard text params limit world).1.isSome = true := by
  simp only [standard, isolated]
  split <;> rfl

variable {limit} in
theorem standard_of_mishap (hLimit : 0 < limit.nanoseconds) {cause : EvalError}
    (h : cause ∈ params.mishaps limit (.evaluate text) world) :
    (standard text params limit world).1 = some (.error cause) := by
  rw [ParameterSet.mishaps, Duration.mishap?] at h
  split at h
  · rename_i hOverrun
    obtain rfl := List.mem_singleton.mp h
    exact standard_of_overrun params text world hLimit hOverrun
  · rename_i hInTime
    split at h
    · rename_i hCrash
      obtain rfl := List.mem_singleton.mp h
      rw [standard_of_inTime params text world hLimit hInTime,
        (cooperative_eq_none_iff params limit text world).mpr hCrash]
      rfl
    · cases h

end Evaluator

namespace Template

/-- Whatever goes wrong with a callable is what the run fails with. -/
def Reports (params : ParameterSet σ) (limit : Duration) (plan : Template α) : Prop :=
  ∀ world, ∀ cause ∈ plan.trace (params.answerTemplate Evaluator.standard limit)
      (params.mishaps limit) world,
    ∃ error expression fragment,
      (plan.run (params.answerTemplate Evaluator.standard limit) world).1 = some (.error error) ∧
      error.fault = .ofEvaluation expression fragment cause

namespace Reports

variable {params : ParameterSet σ} {limit : Duration}

theorem bind {plan : Template α} {f : α → Template β} (h : Reports params limit plan)
    (hf : ∀ value, Reports params limit (f value)) : Reports params limit (plan >>= f) := by
  intro world cause hCause
  rw [Plan.trace_bind, List.mem_append] at hCause
  rw [Plan.run_bind]
  rcases hCause with hFirst | hLater
  · obtain ⟨error, expression, fragment, hError, hFault⟩ := h world cause hFirst
    refine ⟨error, expression, fragment, ?_, hFault⟩
    rw [← Prod.eta (plan.run _ world), hError]
  · rcases hPlan : plan.run (params.answerTemplate Evaluator.standard limit) world with
      ⟨_ | error | value, middle⟩ <;> rw [hPlan] at hLater
    · cases hLater
    · cases hLater
    · simpa only [hPlan] using hf value middle cause hLater

theorem under (segment : PathSegment) {plan : Template α} (h : Reports params limit plan) :
    Reports params limit (Template.under segment plan) := by
  intro world cause hCause
  rw [Template.under, Plan.trace_mapError] at hCause
  obtain ⟨error, expression, fragment, hError, hFault⟩ := h world cause hCause
  refine ⟨error.under segment, expression, fragment, ?_, hFault⟩
  rw [Template.under, Plan.run_mapError, hError]
  rfl

theorem evaluate (hLimit : 0 < limit.nanoseconds) (expression fragment : String) :
    Reports params limit (Template.evaluate expression fragment) := by
  intro world cause hCause
  rw [trace_evaluate] at hCause
  have hAnswer := Evaluator.standard_of_mishap params expression world hLimit hCause
  refine ⟨.ofFault (.ofEvaluation expression fragment cause), expression, fragment, ?_, rfl⟩
  rw [run_evaluate, ParameterSet.answerTemplate, hAnswer]
  rfl

end Reports

theorem closedUnderTemplate_reports {params : ParameterSet σ} {limit : Duration} {config : Config}
    (hLimit : 0 < limit.nanoseconds) (hDialect : config.dialect = .expression)
    (hStrict : config.isLenient = false) :
    ClosedUnderTemplate config fun plan => Reports params limit plan where
  done _ := fun _ _ hCause => nomatch hCause
  fault _ := fun _ _ hCause => nomatch hCause
  bind := Reports.bind
  under := Reports.under
  orKeep h _ := by
    rw [hStrict]
    exact h
  evaluate := Reports.evaluate hLimit
  pipeline _ _ hPipeline := by cases hDialect.symm.trans hPipeline

end Template

theorem Substitution.walk_reports (params : ParameterSet σ) {limit : Duration} {config : Config}
    (hLimit : 0 < limit.nanoseconds) (hDialect : config.dialect = .expression)
    (hStrict : config.isLenient = false) (document : Json) :
    Template.Reports params limit (walk config document) :=
  (Template.closedUnderTemplate_reports hLimit hDialect hStrict).walk document

namespace Parameterizer

/-- What goes wrong with the callables of a run. -/
def mishaps (engine : Parameterizer σ) (params : ParameterSet σ) (plan : Template α)
    (world : World σ) : List EvalError :=
  plan.trace (params.answerTemplate engine.evaluator engine.config.timeout)
    (params.mishaps engine.config.timeout) world

/-- An attempt at a plan, which has no result if anything goes wrong with a callable. -/
def contained (engine : Parameterizer σ) (params : ParameterSet σ)
    (plan : Template (Option Json)) : Resolver σ (Option (Option Json)) := fun world =>
  (if engine.mishaps params plan world = [] then
      (engine.perform params plan world).1.bind Except.toOption
    else none,
    (engine.perform params plan world).2)

/-- Slow and crashing callables stay within their place in the document: a strict run fails with
what went wrong, and a lenient one goes on as if there had been no result. -/
def Contains (engine : Parameterizer σ) (document : Json) (params : ParameterSet σ)
    (world : World σ) : Prop :=
  match engine.config.policy with
  | .strict =>
    ∀ cause ∈ engine.mishaps params (Substitution.walk engine.config document) world,
      ∃ error expression fragment,
        (engine.parameterize document params world).1 = some (.error error) ∧
        error.fault = .ofEvaluation expression fragment cause
  | .lenient =>
    let (result, after) :=
      (Fallback.walk engine.config (engine.contained params) document).run world
    engine.parameterize document params world = (some (.ok (result.getD .null)), after)

variable {config : Config} {params : ParameterSet σ}

theorem attempts_contained {plan : Template (Option Json)}
    (h : Template.Reports params config.timeout plan)
    (hAnswers : ∀ world, ((isolated config).perform params plan world).1.isSome = true) :
    Template.Attempts (params.answerTemplate Evaluator.standard config.timeout) plan
      ((isolated config).contained params plan) := by
  intro world
  obtain ⟨result, hResult⟩ := Option.isSome_iff_exists.mp (hAnswers world)
  have hRun : plan.run (params.answerTemplate Evaluator.standard config.timeout) world =
      (some result, ((isolated config).perform params plan world).2) := Prod.ext hResult rfl
  have hAttempt : ((isolated config).contained params plan).run world =
      (if (isolated config).mishaps params plan world = [] then result.toOption else none,
        ((isolated config).perform params plan world).2) := by
    change (ite _ _ _, _) = _
    rw [hResult]
    rfl
  rw [hAttempt, hRun]
  cases result with
  | error error =>
    rw [Except.toOption, ite_self]
    exact ⟨error, rfl⟩
  | ok value =>
    have hNone : (isolated config).mishaps params plan world = [] := by
      rw [List.eq_nil_iff_forall_not_mem]
      intro cause hCause
      obtain ⟨error, _, _, hError, -⟩ := h world cause hCause
      cases hResult.symm.trans hError
    rw [if_pos hNone]
    rfl

theorem sound_contained (hLimit : 0 < config.timeout.nanoseconds)
    (hDialect : config.dialect = .expression) :
    Fallback.Sound (params.answerTemplate Evaluator.standard config.timeout) config
      ((isolated config).contained params) := by
  have hEvaluate : ∀ expression fragment,
      Template.Attempts (params.answerTemplate Evaluator.standard config.timeout)
        (Template.evaluate expression fragment)
        ((isolated config).contained params (Template.evaluate expression fragment)) := by
    intro expression fragment
    apply attempts_contained (.evaluate hLimit expression fragment)
    intro world
    rw [perform, Template.run_evaluate]
    exact Option.isSome_map.trans (Evaluator.standard_isSome params config.timeout expression world)
  constructor
  · intro body fragment
    rw [Fallback.markerPlan.eq_def, hDialect]
    exact hEvaluate _ fragment
  · intro field
    cases field with
    | string text => exact hEvaluate text text
    | null | bool _ | number _ | array _ | object _ => exact fun _ => rfl

theorem contains_of_expression (hLimit : 0 < config.timeout.nanoseconds)
    (hDialect : config.dialect = .expression) (document : Json) (world : World σ) :
    (isolated config).Contains document params world := by
  change match config.policy with | .strict => _ | .lenient => _
  cases hPolicy : config.policy with
  | strict =>
    have hStrict : config.isLenient = false := by
      rw [Config.isLenient, hPolicy]
      rfl
    intro cause hCause
    obtain ⟨error, expression, fragment, hError, hFault⟩ :=
      Substitution.walk_reports params hLimit hDialect hStrict document world cause hCause
    refine ⟨error, expression, fragment, ?_, hFault⟩
    exact congrArg (Option.map (Except.map (Option.getD · .null))) hError
  | lenient =>
    have hLenient : config.isLenient = true := by
      rw [Config.isLenient, hPolicy]
      rfl
    have hRun : (isolated config).substitute document params world = _ :=
      Substitution.walk_realizes hLenient (sound_contained hLimit hDialect) document world
    simp only [parameterize, hRun]
    rfl

end Parameterizer

/-! ### Crashes in pipelines -/

namespace Plan

variable {I : Interface} {ε ε' γ : Type}
  {answer : (question : I.Question) → Act σ (I.Answer question)}
  {note : I.Question → World σ → List γ} {plan : Plan I ε α} {world : World σ}
  (h : (plan.run answer world).1 = none)
include h

theorem run_bind_crashed (f : α → Plan I ε β) : ((plan >>= f).run answer world).1 = none := by
  rw [run_bind, ← Prod.eta (plan.run answer world), h]

theorem run_recover_crashed (f : ε → Plan I ε' α) :
    ((plan.recover f).run answer world).1 = none := by
  rw [run_recover, ← Prod.eta (plan.run answer world), h]

theorem trace_ne_nil_of_crashed
    (hNote : ∀ question world, (answer question world).1 = none → note question world ≠ []) :
    plan.trace answer note world ≠ [] := by
  induction plan generalizing world with
  | done value => cases h
  | fail error => cases h
  | ask question next ih =>
    rcases hAnswer : answer question world with ⟨_ | reply, after⟩
    · rw [trace_ask_crashed answer note hAnswer]
      exact hNote question world (by rw [hAnswer])
    · rw [run_ask_answered answer hAnswer] at h
      rw [trace_ask_answered answer note hAnswer]
      exact List.append_ne_nil_of_right_ne_nil _ (ih reply h)

end Plan

theorem ParameterSet.mishaps_ne_nil_of_crashed (params : ParameterSet σ) (limit : Duration)
    (question : TemplateQuestion) (world : World σ)
    (h : (params.answerTemplate Evaluator.standard limit question world).1 = none) :
    params.mishaps limit question world ≠ [] := by
  cases question with
  | evaluate text =>
    have hSome := Evaluator.standard_isSome params limit text world
    rw [show (Evaluator.standard text params limit world).1 = none from h] at hSome
    cases hSome
  | lookup name => cases h
  | invoke name args =>
    have hCrash := (params.call_eq_none_iff name args world).mp h
    rw [mishaps, Duration.mishap?, if_pos hCrash]
    split
    · exact List.cons_ne_nil _ _
    · exact List.cons_ne_nil _ _

theorem Template.orKeep_crashed {answer : (question : TemplateQuestion) → Act σ question.Answer}
    {plan : Template α} {world : World σ} (h : (plan.run answer world).1 = none) (lenient : Bool)
    (kept : Template α) : ((Template.orKeep lenient plan kept).run answer world).1 = none := by
  rw [Template.orKeep]
  split
  · exact Plan.run_recover_crashed h _
  · exact h

namespace Segment

theorem findClose?_self {closing : List Char} (h : closing ≠ []) (rest : List Char) :
    findClose? closing 0 .plain (closing ++ rest) = some ([], rest) := by
  cases closing with
  | nil => exact (h rfl).elim
  | cons c closing =>
    rw [List.cons_append, findClose?, if_pos]
    · simp
    · exact ⟨rfl, rfl, List.isPrefixOf_iff_prefix.mpr (List.prefix_append (c :: closing) rest)⟩

/-- A text that is a marker with nothing in it. -/
theorem scan_emptyMarker {delimiters : Delimiters} (hOpening : delimiters.opening ≠ "")
    (hClosing : delimiters.closing ≠ "") :
    scan delimiters (delimiters.opening ++ delimiters.closing) =
      [.marker (delimiters.opening ++ delimiters.closing) ""] := by
  have hClose := findClose?_self (mt String.toList_eq_nil_iff.mp hClosing) []
  rw [List.append_nil] at hClose
  rw [scan]
  split
  · rename_i hEmpty
    exact (hOpening (String.toList_eq_nil_iff.mp hEmpty)).elim
  · rename_i first others hToken
    have hRaw : String.ofList (first :: others ++ [] ++ delimiters.closing.toList) =
        delimiters.opening ++ delimiters.closing := by
      rw [← String.toList_inj, String.toList_ofList, String.toList_append, hToken, List.append_nil]
    rw [String.toList_append, hToken,
      split_of_some (findToken?_self (List.cons_ne_nil first others) _) hClose, hRaw,
      split_of_none rfl]
    rfl

end Segment

namespace Parameterizer

/-- The callable of a pipeline takes its caller with it when it crashes. -/
theorem not_contains_of_pipeline {config : Config} (hDialect : config.dialect = .pipeline)
    (hOpening : config.delimiters.opening ≠ "") (hClosing : config.delimiters.closing ≠ "") :
    ∃ (document : Json) (params : ParameterSet Unit) (world : World Unit),
      ¬(isolated config).Contains document params world := by
  let crashing : Callable Unit := ⟨0, fun _ state => (⟨.crash, ⟨0⟩⟩, state)⟩
  let params : ParameterSet Unit := ⟨[("", .callable crashing)]⟩
  let fragment := config.delimiters.opening ++ config.delimiters.closing
  have hStage : ((isolated config).perform params (Pipeline.run "" fragment) ⟨(), 0⟩).1 = none :=
    rfl
  have hMarker : ((isolated config).perform params (Template.orKeep config.isLenient
      (Interpolation.splice config "" fragment) (.done fragment)) ⟨(), 0⟩).1 = none := by
    apply Template.orKeep_crashed
    rw [Interpolation.splice.eq_def, hDialect]
    exact Plan.run_bind_crashed hStage _
  have hText : ((isolated config).substitute (.string fragment) params ⟨(), 0⟩).1 = none := by
    rw [substitute, perform, Substitution.walk]
    change (Plan.run _ (Interpolation.interpolate config fragment) _).1 = none
    rw [Interpolation.interpolate, Segment.scan_emptyMarker hOpening hClosing,
      Interpolation.ofSegments.eq_def, hDialect]
    exact Plan.run_bind_crashed (Plan.run_bind_crashed hMarker _) _
  have hLost : ((isolated config).parameterize (.string fragment) params ⟨(), 0⟩).1 = none := by
    simp only [parameterize, hText, Option.map_none]
  refine ⟨.string fragment, params, ⟨(), 0⟩, ?_⟩
  change ¬match config.policy with | .strict => _ | .lenient => _
  cases config.policy with
  | strict =>
    intro h
    obtain ⟨cause, hCause⟩ := List.exists_mem_of_ne_nil _
      (Plan.trace_ne_nil_of_crashed hText (params.mishaps_ne_nil_of_crashed config.timeout))
    obtain ⟨error, _, _, hError, -⟩ := h cause hCause
    cases hLost.symm.trans hError
  | lenient =>
    intro h
    have hSome := congrArg Prod.fst h
    cases hLost.symm.trans hSome

/-- With the default engine, slow and crashing callables stay within their place in every document
if and only if markers hold expressions. -/
theorem contains_iff (config : Config) (hLimit : 0 < config.timeout.nanoseconds)
    (hOpening : config.delimiters.opening ≠ "") (hClosing : config.delimiters.closing ≠ "") :
    (∀ (σ : Type) (document : Json) (params : ParameterSet σ) (world : World σ),
      (isolated config).Contains document params world) ↔ config.dialect = .expression := by
  constructor
  · intro h
    cases hDialect : config.dialect with
    | expression => rfl
    | pipeline =>
      obtain ⟨document, params, world, hNot⟩ :=
        not_contains_of_pipeline hDialect hOpening hClosing
      exact (hNot (h Unit document params world)).elim
  · intro hDialect σ document params world
    exact contains_of_expression hLimit hDialect document world

theorem contains_iff_standard :
    let slow : Callable Unit :=
      ⟨0, fun _ state => (⟨.value (.string "late"), .ofMilliseconds 600⟩, state)⟩
    let crashing : Callable Unit := ⟨0, fun _ state => (⟨.crash, ⟨0⟩⟩, state)⟩
    let params : ParameterSet Unit := ⟨[("slow", .callable slow), ("boom", .callable crashing)]⟩
    let engine : Parameterizer Unit := .isolated .standard
    let late : Json := .object [("a", .string "b $\x7bslow()\x7d")]
    let lost : Json := .object [("$\x7bboom()\x7d", .null)]
    (0 < engine.config.timeout.nanoseconds ∧ engine.config.delimiters.opening ≠ "" ∧
      engine.config.delimiters.closing ≠ "") ∧
    (∃ error expression fragment,
      (engine.parameterize late params ⟨(), 0⟩).1 = some (.error error) ∧
      error.fault = .timedOut expression fragment engine.config.timeout) ∧
    ∃ error expression fragment,
      (engine.parameterize lost params ⟨(), 0⟩).1 = some (.error error) ∧
      error.fault = .evaluation expression fragment Evaluator.workerLost := by
  intro slow crashing params engine late lost
  have hLimit : 0 < engine.config.timeout.nanoseconds := by decide
  have hOpening : engine.config.delimiters.opening ≠ "" := by decide
  have hClosing : engine.config.delimiters.closing ≠ "" := by decide
  have hContains := (contains_iff engine.config hLimit hOpening hClosing).mpr rfl Unit
  have hLate : .timeout engine.config.timeout ∈
      engine.mishaps params (Substitution.walk engine.config late) ⟨(), 0⟩ := by decide +kernel
  have hLost : Evaluator.workerLost ∈
      engine.mishaps params (Substitution.walk engine.config lost) ⟨(), 0⟩ := by decide +kernel
  exact ⟨⟨hLimit, hOpening, hClosing⟩, hContains late params ⟨(), 0⟩ _ hLate,
    hContains lost params ⟨(), 0⟩ _ hLost⟩

/-- The late value of a callable is used in a pipeline, and its crash reaches the caller. -/
theorem not_contains_late_value_and_crash :
    let slow : Callable Unit :=
      ⟨0, fun _ state => (⟨.value (.string "late"), .ofMilliseconds 40⟩, state)⟩
    let crashing : Callable Unit := ⟨0, fun _ state => (⟨.crash, ⟨0⟩⟩, state)⟩
    let params : ParameterSet Unit := ⟨[("slow", .callable slow), ("boom", .callable crashing)]⟩
    let strict : Parameterizer Unit :=
      .isolated ⟨.pipeline, Dialect.pipeline.delimiters, .strict, 5⟩
    let lenient : Parameterizer Unit := .isolated strict.config.lenient
    let late : Json := .string "\x7b\x7bslow\x7d\x7d"
    let lost : Json := .string "\x7b\x7bboom\x7d\x7d"
    strict.mishaps params (Substitution.walk strict.config late) ⟨(), 0⟩ =
      [.timeout strict.config.timeout] ∧
    (strict.parameterize late params ⟨(), 0⟩).1 = some (.ok (.string "late")) ∧
    (lenient.parameterize late params ⟨(), 0⟩).1 = some (.ok (.string "late")) ∧
    strict.mishaps params (Substitution.walk strict.config lost) ⟨(), 0⟩ =
      [Evaluator.workerLost] ∧
    (strict.parameterize lost params ⟨(), 0⟩).1 = none ∧
    (lenient.parameterize lost params ⟨(), 0⟩).1 = none := by
  decide +kernel

end Parameterizer

end ParamTree
