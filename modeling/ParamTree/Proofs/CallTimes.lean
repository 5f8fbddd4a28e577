import Mathlib
import ParamTree.Proofs.Untimed

/-!
# What callables take and return

The clock of a world advances in callables only, so the time of an evaluation is that of the
callables that it invokes, and it is cut short where one of them crashes. Main statements:
`Plan.now_run`, and `Evaluator.standard_of_overrun` and `Evaluator.standard_of_inTime`, which say
what becomes of an expression that is evaluated apart from its caller.
-/

namespace ParamTree

variable {σ : Type}

/-- What a call comes to if the callable ends so. -/
def CallOutcome.answer : CallOutcome → Option (Except String Json)
  | value v => some (.ok v)
  | failure message => some (.error message)
  | crash => none

theorem CallOutcome.answer_eq_none_iff (outcome : CallOutcome) :
    outcome.answer = none ↔ outcome = .crash := by
  cases outcome <;> simp [answer]

theorem Callable.call_of_length_eq (callable : Callable σ) {args : List Json}
    (h : args.length = callable.arity) (world : World σ) :
    callable.call args world =
      ((callable.body args world.state).1.outcome.answer, ⟨(callable.body args world.state).2,
        world.now + (callable.body args world.state).1.elapsed.nanoseconds⟩) := by
  rw [call, if_pos h]
  generalize callable.body args world.state = result
  obtain ⟨⟨_ | _ | _, elapsed⟩, state⟩ := result <;> rfl

namespace CallReply

def Fails (reply : CallReply) : Prop :=
  ∃ message, reply.outcome = .failure message

def Crashes (reply : CallReply) : Prop :=
  reply.outcome = .crash

def nanoseconds (reply : CallReply) : Nat :=
  reply.elapsed.nanoseconds

end CallReply

/-- The replies together take longer than the limit. -/
def Duration.Overrun (limit : Duration) (replies : List CallReply) : Prop :=
  limit.nanoseconds < (replies.map CallReply.nanoseconds).sum

instance (limit : Duration) (replies : List CallReply) : Decidable (limit.Overrun replies) :=
  inferInstanceAs (Decidable (_ < _))

namespace ParameterSet

/-- The reply of the callable that a question invokes. Any other call fails without one. -/
def replies (params : ParameterSet σ) : ScopeQuestion → World σ → List CallReply
  | .invoke name args, world =>
    match params.get? name with
    | some (.callable callable) =>
      if args.length = callable.arity then [(callable.body args world.state).1] else []
    | _ => []
  | .lookup _, _ => []
  | .deadline, _ => []

/-- The replies of the callables that the evaluation of a text invokes, in their order. -/
def repliesTo (params : ParameterSet σ) (limit : Duration) (text : String) (world : World σ) :
    List CallReply :=
  match Expr.ofText text with
  | .error _ => []
  | .ok expr => expr.evaluate.trace (params.answer limit world.now) params.replies world

end ParameterSet

namespace Plan

variable {I : Interface} {ε α γ : Type}
  {answer : (question : I.Question) → Act σ (I.Answer question)}
  {note : I.Question → World σ → List γ}

/-- If every question takes the time that its notes take, so does a run. -/
theorem now_run {time : γ → Nat}
    (h : ∀ question world, (answer question world).2.now =
      world.now + ((note question world).map time).sum)
    (plan : Plan I ε α) (world : World σ) :
    (plan.run answer world).2.now =
      world.now + ((plan.trace answer note world).map time).sum := by
  induction plan generalizing world with
  | done value => rfl
  | fail error => rfl
  | ask question next ih =>
    have hTime := h question world
    rw [run, trace]
    rcases hAnswer : answer question world with ⟨_ | reply, after⟩ <;> rw [hAnswer] at hTime
    · simpa using hTime
    · rw [ih reply after, hTime, List.map_append, List.sum_append, Nat.add_assoc]

/-- If the questions that crash note it, a run crashes exactly where it is noted. -/
theorem run_eq_none_iff {crashes : γ → Prop}
    (h : ∀ question world, (answer question world).1 = none ↔
      ∃ x ∈ note question world, crashes x)
    (plan : Plan I ε α) (world : World σ) :
    (plan.run answer world).1 = none ↔ ∃ x ∈ plan.trace answer note world, crashes x := by
  induction plan generalizing world with
  | done value => simp [run, trace]
  | fail error => simp [run, trace]
  | ask question next ih =>
    have hCrash := h question world
    rw [run, trace]
    rcases hAnswer : answer question world with ⟨_ | reply, after⟩ <;> rw [hAnswer] at hCrash
    · simpa using hCrash
    · have hNone : ¬∃ x ∈ note question world, crashes x :=
        fun hx => Option.some_ne_none reply (hCrash.mpr hx)
      rw [ih reply after]
      simp only [List.mem_append, or_and_right, exists_or, hNone, false_or]

end Plan

namespace ParameterSet

variable (params : ParameterSet σ)

/-- A call fails before it reaches a callable, or comes to what the callable replies. -/
theorem call_cases (name : String) (args : List Json) (world : World σ) :
    (∃ message, params.call name args world = (some (.error message), world) ∧
      params.replies (.invoke name args) world = []) ∨
    (∃ reply state, params.call name args world =
        (reply.outcome.answer, ⟨state, world.now + reply.nanoseconds⟩) ∧
      params.replies (.invoke name args) world = [reply]) := by
  rw [call, replies]
  rcases params.get? name with _ | _ | callable
  · exact .inl ⟨_, rfl, rfl⟩
  · exact .inl ⟨_, rfl, rfl⟩
  · by_cases hArity : args.length = callable.arity
    · exact .inr ⟨_, _, callable.call_of_length_eq hArity world, if_pos hArity⟩
    · exact .inl ⟨_, if_neg hArity, if_neg hArity⟩

theorem now_call (name : String) (args : List Json) (world : World σ) :
    (params.call name args world).2.now =
      world.now + ((params.replies (.invoke name args) world).map CallReply.nanoseconds).sum := by
  obtain ⟨message, hCall, hReplies⟩ | ⟨reply, state, hCall, hReplies⟩ :=
    params.call_cases name args world
  · rw [hCall, hReplies]
    rfl
  · rw [hCall, hReplies]
    simp

theorem call_eq_none_iff (name : String) (args : List Json) (world : World σ) :
    (params.call name args world).1 = none ↔
      ∃ reply ∈ params.replies (.invoke name args) world, reply.Crashes := by
  obtain ⟨message, hCall, hReplies⟩ | ⟨reply, state, hCall, hReplies⟩ :=
    params.call_cases name args world
  · simp [hCall, hReplies]
  · rw [hCall, hReplies, CallOutcome.answer_eq_none_iff]
    simp [CallReply.Crashes]

theorem now_answer (limit : Duration) (start : Nat) (question : ScopeQuestion) (world : World σ) :
    (params.answer limit start question world).2.now =
      world.now + ((params.replies question world).map CallReply.nanoseconds).sum := by
  cases question with
  | lookup _ | deadline => rfl
  | invoke name args => exact params.now_call name args world

theorem answer_eq_none_iff (limit : Duration) (start : Nat) (question : ScopeQuestion)
    (world : World σ) :
    (params.answer limit start question world).1 = none ↔
      ∃ reply ∈ params.replies question world, reply.Crashes := by
  cases question with
  | lookup _ | deadline => simp [answer, replies]
  | invoke name args => exact params.call_eq_none_iff name args world

end ParameterSet

namespace Duration

theorem exceeded_self {limit : Duration} (hLimit : 0 < limit.nanoseconds) (start : Nat) :
    limit.exceeded start start = false := by
  simp [exceeded, Nat.ne_of_gt hLimit]

theorem exceeded_iff_overrun {limit : Duration} (hLimit : 0 < limit.nanoseconds) {start now : Nat}
    {replies : List CallReply} (h : now = start + (replies.map CallReply.nanoseconds).sum) :
    limit.exceeded start now = true ↔ limit.Overrun replies := by
  simp [exceeded, Overrun, h, Nat.ne_of_gt hLimit]

end Duration

namespace Evaluator

variable (params : ParameterSet σ) (limit : Duration) (text : String) (world : World σ)

theorem now_cooperative :
    (cooperative text params limit world).2.now = world.now +
      ((params.repliesTo limit text world).map CallReply.nanoseconds).sum := by
  rw [cooperative, ParameterSet.repliesTo]
  cases Expr.ofText text with
  | error _ => rfl
  | ok expr => exact Plan.now_run (params.now_answer limit world.now) expr.evaluate world

theorem cooperative_eq_none_iff :
    (cooperative text params limit world).1 = none ↔
      ∃ reply ∈ params.repliesTo limit text world, reply.Crashes := by
  rw [cooperative, ParameterSet.repliesTo]
  cases Expr.ofText text with
  | error _ => simp
  | ok expr =>
    exact Plan.run_eq_none_iff (params.answer_eq_none_iff limit world.now) expr.evaluate world

variable {limit} (hLimit : 0 < limit.nanoseconds)
include hLimit

theorem standard_of_overrun (h : limit.Overrun (params.repliesTo limit text world)) :
    (standard text params limit world).1 = some (.error (.timeout limit)) := by
  have hExceeded := (Duration.exceeded_iff_overrun hLimit
    (now_cooperative params limit text world)).mpr h
  simp only [standard, isolated, hExceeded, if_true]

/-- What is in time is taken as it comes, and a crash is an error. -/
theorem standard_of_inTime (h : ¬limit.Overrun (params.repliesTo limit text world)) :
    (standard text params limit world).1 =
      some ((cooperative text params limit world).1.getD (.error workerLost)) := by
  have hExceeded := mt (Duration.exceeded_iff_overrun hLimit
    (now_cooperative params limit text world)).mp h
  simp only [standard, isolated, hExceeded, Bool.false_eq_true, if_false]

end Evaluator

end ParamTree
