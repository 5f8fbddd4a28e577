import ParamTree.Plan

/-!
# What a run asks

The exchanges of a run are its questions in order, each with the answer that it got. They are read
off a run whose state keeps a record of them. More generally, a run leaves a trace, to which every
question adds what it says about itself. A plan that never fails has no error at its end, whatever
the answers are; its run can only be cut short by a crash.
-/

namespace ParamTree

structure Exchange (I : Interface) where
  question : I.Question
  /-- None where a crash came instead. -/
  answer : Option (I.Answer question)

namespace Plan

variable {I : Interface} {ε ε' α β γ σ : Type}

def recording (answer : (question : I.Question) → Act σ (I.Answer question))
    (question : I.Question) : Act (σ × List (Exchange I)) (I.Answer question) := fun world =>
  let (reply, after) := answer question ⟨world.state.1, world.now⟩
  (reply, ⟨(after.state, world.state.2 ++ [⟨question, reply⟩]), after.now⟩)

/-- The exchanges of a run that begins in the given world. -/
def exchanges (answer : (question : I.Question) → Act σ (I.Answer question)) (plan : Plan I ε α)
    (world : World σ) : List (Exchange I) :=
  (plan.run (recording answer) ⟨(world.state, []), world.now⟩).2.state.2

section Record

variable (answer : (question : I.Question) → Act σ (I.Answer question))

theorem exists_record (plan : Plan I ε α) (world : World σ) :
    ∃ added, ∀ record, plan.run (recording answer) ⟨(world.state, record), world.now⟩ =
      ((plan.run answer world).1, ⟨((plan.run answer world).2.state, record ++ added),
        (plan.run answer world).2.now⟩) := by
  induction plan generalizing world with
  | done value => exact ⟨[], fun record => by simp [run]⟩
  | fail error => exact ⟨[], fun record => by simp [run]⟩
  | ask question next ih =>
    cases hAnswer : answer question world with
    | mk reply after =>
      cases reply with
      | none => exact ⟨[⟨question, none⟩], fun record => by simp [run, recording, hAnswer]⟩
      | some reply =>
        obtain ⟨added, hAdded⟩ := ih reply after
        refine ⟨⟨question, some reply⟩ :: added, ?_⟩
        intro record
        simp [run, recording, hAnswer, hAdded]

theorem run_recording (plan : Plan I ε α) (record : List (Exchange I)) (world : World σ) :
    plan.run (recording answer) ⟨(world.state, record), world.now⟩ =
      ((plan.run answer world).1, ⟨((plan.run answer world).2.state,
        record ++ plan.exchanges answer world), (plan.run answer world).2.now⟩) := by
  obtain ⟨added, hAdded⟩ := exists_record answer plan world
  have hExchanges : plan.exchanges answer world = added := by
    rw [exchanges, hAdded, List.nil_append]
  rw [hAdded, hExchanges]

@[simp] theorem exchanges_done (value : α) (world : World σ) :
    (done value : Plan I ε α).exchanges answer world = [] := rfl

@[simp] theorem exchanges_fail (error : ε) (world : World σ) :
    (fail error : Plan I ε α).exchanges answer world = [] := rfl

theorem run_ask_answered {question : I.Question} {next : I.Answer question → Plan I ε α}
    {reply : I.Answer question} {world after : World σ}
    (h : answer question world = (some reply, after)) :
    (ask question next).run answer world = (next reply).run answer after := by
  simp only [run, h]

theorem run_ask_crashed {question : I.Question} {next : I.Answer question → Plan I ε α}
    {world after : World σ} (h : answer question world = (none, after)) :
    (ask question next).run answer world = (none, after) := by
  simp only [run, h]

theorem exchanges_ask_answered {question : I.Question} {next : I.Answer question → Plan I ε α}
    {reply : I.Answer question} {world after : World σ}
    (h : answer question world = (some reply, after)) :
    (ask question next).exchanges answer world =
      ⟨question, some reply⟩ :: (next reply).exchanges answer after := by
  have hNext := run_recording answer (next reply) [⟨question, some reply⟩] after
  simp only [exchanges, run, recording, h, List.nil_append] at hNext ⊢
  rw [hNext]
  rfl

theorem exchanges_ask_crashed {question : I.Question} {next : I.Answer question → Plan I ε α}
    {world after : World σ} (h : answer question world = (none, after)) :
    (ask question next).exchanges answer world = [⟨question, none⟩] := by
  simp only [exchanges, run, recording, h, List.nil_append]

section Trace

variable (note : I.Question → World σ → List γ)

/-- What the questions of a run say about themselves, in the world in which they are asked. -/
def trace : Plan I ε α → World σ → List γ
  | .done _, _ => []
  | .fail _, _ => []
  | .ask question next, world =>
    note question world ++
      match answer question world with
      | (some reply, world) => (next reply).trace world
      | (none, _) => []

theorem trace_ask_answered {question : I.Question} {next : I.Answer question → Plan I ε α}
    {reply : I.Answer question} {world after : World σ}
    (h : answer question world = (some reply, after)) :
    (ask question next).trace answer note world =
      note question world ++ (next reply).trace answer note after := by
  simp only [trace, h]

theorem trace_ask_crashed {question : I.Question} {next : I.Answer question → Plan I ε α}
    {world after : World σ} (h : answer question world = (none, after)) :
    (ask question next).trace answer note world = note question world := by
  simp only [trace, h, List.append_nil]

theorem trace_bind (plan : Plan I ε α) (f : α → Plan I ε β) (world : World σ) :
    (plan >>= f).trace answer note world = plan.trace answer note world ++
      match plan.run answer world with
      | (some (.ok value), after) => (f value).trace answer note after
      | _ => [] := by
  induction plan generalizing world with
  | done value => rfl
  | fail error => rfl
  | ask question next ih =>
    rcases hAnswer : answer question world with ⟨reply, after⟩
    rw [ask_bind]
    cases reply with
    | none =>
      rw [trace_ask_crashed answer note hAnswer, trace_ask_crashed answer note hAnswer,
        run_ask_crashed answer hAnswer, List.append_nil]
    | some reply =>
      rw [trace_ask_answered answer note hAnswer, trace_ask_answered answer note hAnswer,
        run_ask_answered answer hAnswer, ih, List.append_assoc]

theorem trace_recover (plan : Plan I ε α) (f : ε → Plan I ε' α) (world : World σ) :
    (plan.recover f).trace answer note world = plan.trace answer note world ++
      match plan.run answer world with
      | (some (.error error), after) => (f error).trace answer note after
      | _ => [] := by
  induction plan generalizing world with
  | done value => rfl
  | fail error => rfl
  | ask question next ih =>
    rcases hAnswer : answer question world with ⟨reply, after⟩
    rw [recover]
    cases reply with
    | none =>
      rw [trace_ask_crashed answer note hAnswer, trace_ask_crashed answer note hAnswer,
        run_ask_crashed answer hAnswer, List.append_nil]
    | some reply =>
      rw [trace_ask_answered answer note hAnswer, trace_ask_answered answer note hAnswer,
        run_ask_answered answer hAnswer, ih, List.append_assoc]

theorem trace_mapError (f : ε → ε') (plan : Plan I ε α) (world : World σ) :
    (plan.mapError f).trace answer note world = plan.trace answer note world := by
  rw [mapError, trace_recover]
  split
  · exact List.append_nil _
  · exact List.append_nil _

end Trace

theorem exchanges_eq_trace (plan : Plan I ε α) (world : World σ) :
    plan.exchanges answer world =
      plan.trace answer (fun question world => [⟨question, (answer question world).1⟩]) world := by
  induction plan generalizing world with
  | done value => rfl
  | fail error => rfl
  | ask question next ih =>
    rcases hAnswer : answer question world with ⟨_ | reply, after⟩
    · rw [exchanges_ask_crashed answer hAnswer, trace, hAnswer]
      rfl
    · rw [exchanges_ask_answered answer hAnswer, trace, hAnswer, ih]
      rfl

theorem exchanges_bind (plan : Plan I ε α) (f : α → Plan I ε β) (world : World σ) :
    (plan >>= f).exchanges answer world = plan.exchanges answer world ++
      match plan.run answer world with
      | (some (.ok value), after) => (f value).exchanges answer after
      | _ => [] := by
  simp only [exchanges_eq_trace]
  exact trace_bind answer _ plan f world

theorem exchanges_mapError (f : ε → ε') (plan : Plan I ε α) (world : World σ) :
    (plan.mapError f).exchanges answer world = plan.exchanges answer world := by
  rw [exchanges_eq_trace, exchanges_eq_trace, trace_mapError]

theorem run_mapError (f : ε → ε') (plan : Plan I ε α) (world : World σ) :
    (plan.mapError f).run answer world =
      ((plan.run answer world).1.map (Except.mapError f), (plan.run answer world).2) := by
  induction plan generalizing world with
  | done value => rfl
  | fail error => rfl
  | ask question next ih =>
    rcases hAnswer : answer question world with ⟨reply, after⟩
    rw [mapError, recover]
    cases reply with
    | none => rw [run_ask_crashed answer hAnswer, run_ask_crashed answer hAnswer]; rfl
    | some reply =>
      rw [run_ask_answered answer hAnswer, run_ask_answered answer hAnswer]
      exact ih reply after

end Record

def NeverFails : Plan I ε α → Prop
  | .done _ => True
  | .fail _ => False
  | .ask _ next => ∀ answer, (next answer).NeverFails

namespace NeverFails

theorem bind {plan : Plan I ε α} {f : α → Plan I ε β} (h : plan.NeverFails)
    (hf : ∀ value, (f value).NeverFails) : (plan >>= f).NeverFails := by
  induction plan with
  | done value => exact hf value
  | fail error => exact h.elim
  | ask question next ih =>
    intro answer
    exact ih answer (h answer)

theorem recover {plan : Plan I ε α} {f : ε → Plan I ε' α} (hf : ∀ error, (f error).NeverFails) :
    (plan.recover f).NeverFails := by
  induction plan with
  | done value => trivial
  | fail error => exact hf error
  | ask question next ih => exact ih

theorem mapError {plan : Plan I ε α} (h : plan.NeverFails) (f : ε → ε') :
    (plan.mapError f).NeverFails := by
  induction plan with
  | done value => trivial
  | fail error => exact h.elim
  | ask question next ih =>
    intro answer
    exact ih answer (h answer)

theorem recover_eq {plan : Plan I ε α} (h : plan.NeverFails) (f : ε → Plan I ε α) :
    plan.recover f = plan := by
  induction plan with
  | done value => rfl
  | fail error => exact h.elim
  | ask question next ih => exact congrArg (ask question) (funext fun a => ih a (h a))

theorem run {plan : Plan I ε α} (h : plan.NeverFails)
    (answer : (question : I.Question) → Act σ (I.Answer question)) (world : World σ) :
    (∃ value after, plan.run answer world = (some (.ok value), after)) ∨
      ((plan.run answer world).1 = none ∧
        ∃ exchange ∈ plan.exchanges answer world, exchange.answer = none) := by
  induction plan generalizing world with
  | done value => exact .inl ⟨value, world, rfl⟩
  | fail error => exact h.elim
  | ask question next ih =>
    rcases hAnswer : answer question world with ⟨reply, after⟩
    cases reply with
    | none =>
      rw [run_ask_crashed answer hAnswer, exchanges_ask_crashed answer hAnswer]
      exact .inr ⟨rfl, _, List.mem_cons_self, rfl⟩
    | some reply =>
      rw [run_ask_answered answer hAnswer, exchanges_ask_answered answer hAnswer]
      obtain hDone | ⟨hNone, exchange, hMem, hCrash⟩ := ih reply (h reply) after
      · exact .inl hDone
      · exact .inr ⟨hNone, exchange, List.mem_cons_of_mem _ hMem, hCrash⟩

end NeverFails

end Plan

end ParamTree
