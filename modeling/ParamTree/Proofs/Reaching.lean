import ParamTree.Proofs.Exchange

/-!
# Runs that come to a value

A run that reaches a value is taken apart at its questions and at the seams of its plan, and so is a
run that stops before it has one. Main statements: `reaches_ask_iff`, `reaches_bind_iff` and
`stops_bind_iff`.
-/

namespace ParamTree.Plan

variable {I : Interface} {ε ε' α β γ σ : Type}
  (answer : (question : I.Question) → Act σ (I.Answer question))
  (note : I.Question → World σ → List γ)

/-- The run comes to the value in the world `after`, and its trace is `noted`. -/
def Reaches (plan : Plan I ε α) (world : World σ) (value : α) (noted : List γ)
    (after : World σ) : Prop :=
  plan.run answer world = (some (.ok value), after) ∧ plan.trace answer note world = noted

/-- The run stops in the world `after`, with an error or, if there is none, in a crash. -/
def Stops (plan : Plan I ε α) (world : World σ) (stop : Option ε) (noted : List γ)
    (after : World σ) : Prop :=
  plan.run answer world = (stop.map .error, after) ∧ plan.trace answer note world = noted

variable {answer note} {world after : World σ} {value : α} {result : β} {noted : List γ}

theorem Reaches.unique {plan : Plan I ε α} {value' : α} {noted' : List γ} {after' : World σ}
    (h : plan.Reaches answer note world value noted after)
    (h' : plan.Reaches answer note world value' noted' after') :
    value = value' ∧ noted = noted' ∧ after = after' := by
  obtain ⟨hRun, rfl⟩ := h
  obtain ⟨hRun', rfl⟩ := h'
  cases hRun.symm.trans hRun'
  exact ⟨rfl, rfl, rfl⟩

theorem reaches_done_iff {other : α} :
    (done other : Plan I ε α).Reaches answer note world value noted after ↔
      other = value ∧ noted = [] ∧ world = after := by
  constructor
  · rintro ⟨hRun, rfl⟩
    cases hRun
    exact ⟨rfl, rfl, rfl⟩
  · rintro ⟨rfl, rfl, rfl⟩
    exact ⟨rfl, rfl⟩

theorem not_reaches_fail {error : ε} :
    ¬(fail error : Plan I ε α).Reaches answer note world value noted after := by
  rintro ⟨hRun, -⟩
  cases hRun

theorem reaches_ask_iff {question : I.Question} {next : I.Answer question → Plan I ε α} :
    (ask question next).Reaches answer note world value noted after ↔
      ∃ reply middle others, answer question world = (some reply, middle) ∧
        (next reply).Reaches answer note middle value others after ∧
        noted = note question world ++ others := by
  constructor
  · rintro ⟨hRun, rfl⟩
    rcases hAnswer : answer question world with ⟨_ | reply, middle⟩
    · rw [run_ask_crashed answer hAnswer] at hRun
      cases hRun
    · rw [run_ask_answered answer hAnswer] at hRun
      exact ⟨reply, middle, _, rfl, ⟨hRun, rfl⟩, trace_ask_answered answer note hAnswer⟩
  · rintro ⟨reply, middle, others, hAnswer, ⟨hRun, rfl⟩, rfl⟩
    constructor
    · rwa [run_ask_answered answer hAnswer]
    · exact trace_ask_answered answer note hAnswer

theorem Reaches.ask_done {question : I.Question} {next : I.Answer question → Plan I ε α}
    {reply : I.Answer question} (h : answer question world = (some reply, after))
    (hNext : next reply = .done value) :
    (ask question next).Reaches answer note world value (note question world) after := by
  refine reaches_ask_iff.mpr ⟨reply, after, [], h, ?_, (List.append_nil _).symm⟩
  rw [hNext]
  exact ⟨rfl, rfl⟩

theorem reaches_bind_iff {plan : Plan I ε α} {f : α → Plan I ε β} :
    (plan >>= f).Reaches answer note world result noted after ↔
      ∃ value middle first others, plan.Reaches answer note world value first middle ∧
        (f value).Reaches answer note middle result others after ∧ noted = first ++ others := by
  constructor
  · rintro ⟨hRun, rfl⟩
    rw [run_bind] at hRun
    rw [trace_bind]
    rcases hPlan : plan.run answer world with ⟨_ | error | value, middle⟩
    · rw [hPlan] at hRun
      cases hRun
    · rw [hPlan] at hRun
      cases hRun
    · rw [hPlan] at hRun
      exact ⟨value, middle, _, _, ⟨hPlan, rfl⟩, ⟨hRun, rfl⟩, rfl⟩
  · rintro ⟨value, middle, _, _, ⟨hPlan, rfl⟩, ⟨hRun, rfl⟩, rfl⟩
    constructor
    · rw [run_bind, hPlan]
      exact hRun
    · rw [trace_bind, hPlan]

theorem Reaches.bind {plan : Plan I ε α} {f : α → Plan I ε β} {middle : World σ}
    {first others : List γ} (h : plan.Reaches answer note world value first middle)
    (hf : (f value).Reaches answer note middle result others after) :
    (plan >>= f).Reaches answer note world result (first ++ others) after :=
  reaches_bind_iff.mpr ⟨value, middle, first, others, h, hf, rfl⟩

theorem Reaches.bind_done {plan : Plan I ε α} {f : α → Plan I ε β}
    (h : plan.Reaches answer note world value noted after) (hf : f value = .done result) :
    (plan >>= f).Reaches answer note world result noted after := by
  have hEnd : (f value).Reaches answer note after result [] after := by
    rw [hf]
    exact ⟨rfl, rfl⟩
  simpa using h.bind hEnd

theorem Reaches.recover {plan : Plan I ε α} (h : plan.Reaches answer note world value noted after)
    (f : ε → Plan I ε' α) : (plan.recover f).Reaches answer note world value noted after := by
  induction plan generalizing world noted with
  | done other => exact reaches_done_iff.mpr (reaches_done_iff.mp h)
  | fail error => exact (not_reaches_fail h).elim
  | ask question next ih =>
    obtain ⟨reply, middle, others, hAnswer, hNext, rfl⟩ := reaches_ask_iff.mp h
    exact reaches_ask_iff.mpr ⟨reply, middle, others, hAnswer, ih reply hNext, rfl⟩

/-! ### Runs that stop -/

theorem not_stops_done {stop : Option ε} :
    ¬(done value : Plan I ε α).Stops answer note world stop noted after := by
  rintro ⟨hRun, -⟩
  cases stop <;> cases hRun

theorem stops_fail_iff {error : ε} {stop : Option ε} :
    (fail error : Plan I ε α).Stops answer note world stop noted after ↔
      stop = some error ∧ noted = [] ∧ after = world := by
  constructor
  · rintro ⟨hRun, rfl⟩
    cases stop with
    | none => cases hRun
    | some other =>
      cases hRun
      exact ⟨rfl, rfl, rfl⟩
  · rintro ⟨rfl, rfl, rfl⟩
    exact ⟨rfl, rfl⟩

theorem stops_ask_iff {question : I.Question} {next : I.Answer question → Plan I ε α}
    {stop : Option ε} :
    (ask question next).Stops answer note world stop noted after ↔
      (∃ reply middle others, answer question world = (some reply, middle) ∧
        (next reply).Stops answer note middle stop others after ∧
        noted = note question world ++ others) ∨
      answer question world = (none, after) ∧ stop = none ∧ noted = note question world := by
  constructor
  · rintro ⟨hRun, rfl⟩
    rcases hAnswer : answer question world with ⟨_ | reply, middle⟩
    · rw [run_ask_crashed answer hAnswer] at hRun
      cases stop <;> cases hRun
      exact .inr ⟨rfl, rfl, trace_ask_crashed answer note hAnswer⟩
    · rw [run_ask_answered answer hAnswer] at hRun
      exact .inl ⟨reply, middle, _, rfl, ⟨hRun, rfl⟩, trace_ask_answered answer note hAnswer⟩
  · rintro (⟨reply, middle, others, hAnswer, ⟨hRun, rfl⟩, rfl⟩ | ⟨hAnswer, rfl, rfl⟩)
    · exact ⟨(run_ask_answered answer hAnswer).trans hRun, trace_ask_answered answer note hAnswer⟩
    · exact ⟨run_ask_crashed answer hAnswer, trace_ask_crashed answer note hAnswer⟩

/-- A sequence stops in its second part, or in its first part; then the second one is not begun. -/
theorem stops_bind_iff {plan : Plan I ε α} {f : α → Plan I ε β} {stop : Option ε} :
    (plan >>= f).Stops answer note world stop noted after ↔
      (∃ value middle first others, plan.Reaches answer note world value first middle ∧
        (f value).Stops answer note middle stop others after ∧ noted = first ++ others) ∨
      plan.Stops answer note world stop noted after := by
  constructor
  · rintro ⟨hRun, rfl⟩
    rw [run_bind] at hRun
    rw [trace_bind]
    rcases hPlan : plan.run answer world with ⟨_ | error | value, middle⟩
    · rw [hPlan] at hRun
      cases stop <;> cases hRun
      exact .inr ⟨hPlan, (List.append_nil _).symm⟩
    · rw [hPlan] at hRun
      cases stop <;> cases hRun
      exact .inr ⟨hPlan, (List.append_nil _).symm⟩
    · rw [hPlan] at hRun
      exact .inl ⟨value, middle, _, _, ⟨hPlan, rfl⟩, ⟨hRun, rfl⟩, rfl⟩
  · rintro (⟨value, middle, _, _, ⟨hPlan, rfl⟩, ⟨hRun, rfl⟩, rfl⟩ | ⟨hPlan, rfl⟩)
    · constructor
      · rw [run_bind, hPlan]
        exact hRun
      · rw [trace_bind, hPlan]
    · constructor
      · rw [run_bind, hPlan]
        cases stop <;> rfl
      · rw [trace_bind, hPlan]
        cases stop <;> exact List.append_nil _

end ParamTree.Plan
