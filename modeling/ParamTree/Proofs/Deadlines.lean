import ParamTree.Proofs.CallTimes

/-!
# Deadlines from inside and from outside

The cooperative evaluator looks at its deadline before every part of an expression and behind every
call that returns a value, the isolated one from outside. A call that fails ends the evaluation
before the deadline is looked at. Main statement: `Evaluator.cooperative_eq_standard_iff`, by which
the two evaluators differ exactly where a call fails when the time is over, or crashes.
-/

namespace ParamTree

variable {σ α β : Type}

namespace Evaluation

/-- How a run that began in time may end. If the time is over, the error is a timeout unless a call
has failed. -/
def EndsTimely (limit : Duration) (start : Nat) (replies : List CallReply) :
    Option (Except EvalError α) × World σ → Prop
  | (some (.ok _), after) =>
    limit.exceeded start after.now = false ∧ ∀ reply ∈ replies, ¬reply.Fails
  | (some (.error error), after) =>
    limit.exceeded start after.now = true →
      (error = .timeout limit ↔ ∀ reply ∈ replies, ¬reply.Fails)
  | (none, _) => True

theorem EndsTimely.append {limit : Duration} {start : Nat} {before after : List CallReply}
    {ending : Option (Except EvalError α) × World σ} (hBefore : ∀ reply ∈ before, ¬reply.Fails)
    (h : EndsTimely limit start after ending) :
    EndsTimely limit start (before ++ after) ending := by
  have hBoth : (∀ reply ∈ before ++ after, ¬reply.Fails) ↔ ∀ reply ∈ after, ¬reply.Fails := by
    rw [List.forall_mem_append]
    exact and_iff_right hBefore
  rcases ending with ⟨_ | error | value, world⟩
  · trivial
  · exact fun hTime => (h hTime).trans hBoth.symm
  · exact ⟨h.1, hBoth.mpr h.2⟩

/-- Runs that begin in time end timely. -/
def Timely (params : ParameterSet σ) (limit : Duration) (start : Nat) (plan : Evaluation α) :
    Prop :=
  ∀ world, limit.exceeded start world.now = false →
    EndsTimely limit start (plan.trace (params.answer limit start) params.replies world)
      (plan.run (params.answer limit start) world)

namespace Timely

variable {params : ParameterSet σ} {limit : Duration} {start : Nat}

theorem done (value : α) : Timely params limit start (.done value : Evaluation α) :=
  fun _ hTime => ⟨hTime, List.forall_mem_nil _⟩

theorem fail (error : EvalError) : Timely params limit start (.fail error : Evaluation α) := by
  intro world hTime hOver
  cases hTime.symm.trans hOver

theorem bind {plan : Evaluation α} {f : α → Evaluation β} (h : Timely params limit start plan)
    (hf : ∀ value, Timely params limit start (f value)) :
    Timely params limit start (plan >>= f) := by
  intro world hTime
  have hPlan := h world hTime
  rw [Plan.run_bind, Plan.trace_bind]
  generalize plan.run (params.answer limit start) world = ending at hPlan ⊢
  rcases ending with ⟨_ | error | value, middle⟩
  · trivial
  · rw [List.append_nil]
    exact hPlan
  · exact (hf value middle hPlan.1).append hPlan.2

theorem inTime {plan : Evaluation α} (h : Timely params limit start plan) :
    Timely params limit start (inTime plan) := by
  intro world hTime
  have hAnswer : params.answer limit start .deadline world = (some none, world) := by
    rw [ParameterSet.answer, hTime]
    rfl
  rw [run_inTime hAnswer, trace_inTime hAnswer]
  exact h world hTime

theorem lookup {name : String} {next : Option Entry → Evaluation α}
    (h : ∀ entry, Timely params limit start (next entry)) :
    Timely params limit start (Evaluation.lookup name >>= next) :=
  fun world hTime => h (params.entry? name) world hTime

/-- A value that is there when the time is over is not returned. -/
theorem endsTimely_inTime (value : α) (world : World σ) :
    EndsTimely limit start
      ((Evaluation.inTime (.done value)).trace (params.answer limit start) params.replies world)
      ((Evaluation.inTime (.done value)).run (params.answer limit start) world) := by
  simp only [Evaluation.inTime, Plan.run, Plan.trace, ParameterSet.answer]
  cases hClock : limit.exceeded start world.now with
  | true => exact fun _ => iff_of_true rfl (List.forall_mem_nil _)
  | false => exact ⟨hClock, List.forall_mem_nil _⟩

theorem ask {question : ScopeQuestion} {next : question.Answer → Evaluation α}
    (h : ∀ world reply after, limit.exceeded start world.now = false →
      params.answer limit start question world = (some reply, after) →
        EndsTimely limit start (params.replies question world ++
            (next reply).trace (params.answer limit start) params.replies after)
          ((next reply).run (params.answer limit start) after)) :
    Timely params limit start (.ask question next) := by
  intro world hTime
  rcases hAnswer : params.answer limit start question world with ⟨_ | reply, after⟩
  · rw [Plan.run_ask_crashed _ hAnswer]
    trivial
  · rw [Plan.run_ask_answered _ hAnswer, Plan.trace_ask_answered _ _ hAnswer]
    exact h world reply after hTime hAnswer

/-- Only a call takes time. -/
theorem invoke (callee : String) (args : List Json) :
    Timely params limit start (Evaluation.invoke callee args >>= fun
      | .ok value => Evaluation.inTime (.done (some value))
      | .error message => fault (.callFailed callee message)) := by
  apply ask
  intro world reply after hTime hAnswer
  obtain ⟨message, hCall, hReplies⟩ | ⟨⟨outcome, elapsed⟩, state, hCall, hReplies⟩ :=
    params.call_cases callee args world
  · cases hCall.symm.trans hAnswer
    rw [hReplies]
    exact fail _ world hTime
  · rw [hReplies]
    cases outcome with
    | crash => cases hCall.symm.trans hAnswer
    | failure message =>
      cases hCall.symm.trans hAnswer
      have hFails : CallReply.Fails ⟨.failure message, elapsed⟩ := ⟨message, rfl⟩
      exact fun _ => iff_of_false nofun fun h => h _ List.mem_cons_self hFails
    | value result =>
      cases hCall.symm.trans hAnswer
      exact (endsTimely_inTime (some result) _).append (by simp [CallReply.Fails])

theorem callWith (callee : String) {args : Evaluation (List Json)}
    (h : Timely params limit start args) : Timely params limit start (callWith callee args) := by
  apply lookup
  rintro (_ | _ | _)
  · exact fail _
  · exact fail _
  · exact h.bind (invoke callee)

theorem valueOf (name : String) : Timely params limit start (valueOf name) := by
  apply lookup
  rintro (_ | _ | _)
  · exact fail _
  · exact done _
  · exact fail _

theorem closedUnderEvaluation :
    ClosedUnderEvaluation fun plan => Timely params limit start plan where
  done := done
  fail := fail
  bind := bind
  inTime := inTime
  valueOf := valueOf
  callWith := callWith

theorem evaluate (expr : Expr) : Timely params limit start expr.evaluate :=
  Expr.evaluate_induction closedUnderEvaluation expr

end Timely

end Evaluation

namespace Evaluator

variable (params : ParameterSet σ) {limit : Duration} (hLimit : 0 < limit.nanoseconds)
  (text : String) (world : World σ)
include hLimit

theorem cooperative_endsTimely :
    Evaluation.EndsTimely limit world.now (params.repliesTo limit text world)
      (cooperative text params limit world) := by
  have hStart := Duration.exceeded_self hLimit world.now
  rw [cooperative, ParameterSet.repliesTo]
  cases Expr.ofText text with
  | error error => exact fun hOver => (Bool.false_ne_true (hStart.symm.trans hOver)).elim
  | ok expr => exact Evaluation.Timely.evaluate expr world hStart

/-- An evaluation that overruns its limit ends with a timeout if and only if all calls return
values. -/
theorem cooperative_of_overrun (h : limit.Overrun (params.repliesTo limit text world)) :
    (cooperative text params limit world).1 = some (.error (.timeout limit)) ↔
      ∀ reply ∈ params.repliesTo limit text world, ¬reply.Crashes ∧ ¬reply.Fails := by
  have hOver :=
    (Duration.exceeded_iff_overrun hLimit (now_cooperative params limit text world)).mpr h
  have hCrash := cooperative_eq_none_iff params limit text world
  have hEnds := cooperative_endsTimely params hLimit text world
  rcases hRun : cooperative text params limit world with ⟨_ | error | value, after⟩ <;>
    rw [hRun] at hOver hCrash hEnds
  · obtain ⟨reply, hReply, hCrashes⟩ := hCrash.mp rfl
    exact iff_of_false nofun fun hAll => (hAll reply hReply).1 hCrashes
  · have hNone : ∀ reply ∈ params.repliesTo limit text world, ¬reply.Crashes :=
      fun reply hReply hCrashes => nomatch hCrash.mpr ⟨reply, hReply, hCrashes⟩
    calc some (Except.error error) = some (.error (.timeout limit))
      _ ↔ error = .timeout limit := by simp
      _ ↔ ∀ reply ∈ params.repliesTo limit text world, ¬reply.Fails := hEnds hOver
      _ ↔ _ := ⟨fun hAll reply hReply => ⟨hNone reply hReply, hAll reply hReply⟩,
        fun hAll reply hReply => (hAll reply hReply).2⟩
  · cases hEnds.1.symm.trans hOver

/-- The two evaluators agree exactly where no call crashes, and none fails when the limit is
overrun. Evaluation from outside then comes to a timeout, evaluation from inside only if all calls
return values. -/
theorem cooperative_eq_standard_iff :
    ((cooperative text params limit world).1 = (standard text params limit world).1 ↔
      ∀ reply ∈ params.repliesTo limit text world, ¬reply.Crashes ∧
        (limit.Overrun (params.repliesTo limit text world) → ¬reply.Fails)) ∧
    (limit.Overrun (params.repliesTo limit text world) →
      (standard text params limit world).1 = some (.error (.timeout limit)) ∧
      ((cooperative text params limit world).1 = some (.error (.timeout limit)) ↔
        ∀ reply ∈ params.repliesTo limit text world, ¬reply.Crashes ∧ ¬reply.Fails)) := by
  by_cases hOverrun : limit.Overrun (params.repliesTo limit text world)
  · have hCooperative := cooperative_of_overrun params hLimit text world hOverrun
    have hStandard := standard_of_overrun params text world hLimit hOverrun
    simp only [hStandard, hCooperative, hOverrun, forall_const, and_self]
  · have hStandard := standard_of_inTime params text world hLimit hOverrun
    have hCrash := cooperative_eq_none_iff params limit text world
    simp only [hOverrun, false_imp_iff, and_true, hStandard]
    cases hRun : (cooperative text params limit world).1 with
    | none =>
      obtain ⟨reply, hReply, hCrashes⟩ := hCrash.mp hRun
      exact iff_of_false nofun fun hAll => hAll reply hReply hCrashes
    | some result =>
      exact iff_of_true rfl fun reply hReply hCrashes =>
        nomatch hRun.symm.trans (hCrash.mpr ⟨reply, hReply, hCrashes⟩)

set_option maxRecDepth 3000 in
omit hLimit in
theorem cooperative_eq_standard_two_calls :
    let brief : Callable Unit := ⟨0, fun _ state => (⟨.value (.ofNat 1), .ofMilliseconds 3⟩, state)⟩
    let long : Callable Unit := ⟨0, fun _ state => (⟨.value (.ofNat 2), .ofMilliseconds 4⟩, state)⟩
    let params : ParameterSet Unit := ⟨[("f", .callable brief), ("g", .callable long)]⟩
    let limit : Duration := .ofMilliseconds 5
    0 < limit.nanoseconds ∧ limit.Overrun (params.repliesTo limit "f() + g()" ⟨(), 0⟩) ∧
    (standard "f() + g()" params limit ⟨(), 0⟩).1 = some (.error (.timeout limit)) ∧
    (cooperative "f() + g()" params limit ⟨(), 0⟩).1 = some (.error (.timeout limit)) := by
  intro brief long params limit
  have hLimit : 0 < limit.nanoseconds := by decide
  have hReplies : params.repliesTo limit "f() + g()" ⟨(), 0⟩ =
      [⟨.value (.ofNat 1), .ofMilliseconds 3⟩, ⟨.value (.ofNat 2), .ofMilliseconds 4⟩] := by cbv
  have hOverrun : limit.Overrun (params.repliesTo limit "f() + g()" ⟨(), 0⟩) := by
    rw [hReplies]
    decide
  have hReturns : ∀ reply ∈ params.repliesTo limit "f() + g()" ⟨(), 0⟩,
      ¬reply.Crashes ∧ ¬reply.Fails := by
    rw [hReplies]
    simp [CallReply.Crashes, CallReply.Fails]
  obtain ⟨hStandard, hCooperative⟩ :=
    (cooperative_eq_standard_iff params hLimit "f() + g()" ⟨(), 0⟩).2 hOverrun
  exact ⟨hLimit, hOverrun, hStandard, hCooperative.mpr hReturns⟩

set_option maxRecDepth 3000 in
omit hLimit in
/-- A call that fails late is seen to fail from inside, and from outside to be late. -/
theorem cooperative_ne_standard_late_failure :
    let late : Callable Unit :=
      ⟨0, fun _ state => (⟨.failure "late", .ofMilliseconds 40⟩, state)⟩
    let params : ParameterSet Unit := ⟨[("f", .callable late)]⟩
    let limit : Duration := .ofMilliseconds 5
    limit.Overrun (params.repliesTo limit "f()" ⟨(), 0⟩) ∧
    (∀ reply ∈ params.repliesTo limit "f()" ⟨(), 0⟩, ¬reply.Crashes) ∧
    (standard "f()" params limit ⟨(), 0⟩).1 = some (.error (.timeout limit)) ∧
    (cooperative "f()" params limit ⟨(), 0⟩).1 =
      some (.error (.runtime "\x60f\x60 failed: late")) := by
  intro late params limit
  have hText : Expr.ofText "f()" = .ok (.call "f" []) := by cbv
  have hReplies : params.repliesTo limit "f()" ⟨(), 0⟩ =
      [⟨.failure "late", .ofMilliseconds 40⟩] := by
    rw [ParameterSet.repliesTo, hText]
    rfl
  have hOverrun : limit.Overrun (params.repliesTo limit "f()" ⟨(), 0⟩) := by
    rw [hReplies]
    decide
  have hReturns : ∀ reply ∈ params.repliesTo limit "f()" ⟨(), 0⟩, ¬reply.Crashes := by
    simp [hReplies, CallReply.Crashes]
  have hCooperative : (cooperative "f()" params limit ⟨(), 0⟩).1 =
      some (.error (.runtime "\x60f\x60 failed: late")) := by
    rw [cooperative, hText]
    rfl
  exact ⟨hOverrun, hReturns,
    standard_of_overrun params "f()" ⟨(), 0⟩ (by decide) hOverrun, hCooperative⟩

end Evaluator

end ParamTree
