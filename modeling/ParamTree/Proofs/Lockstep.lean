import ParamTree.Proofs.Exchange

/-!
# Runs in step

Two runs whose answers are the same as long as their traces are good ask the same questions and end
in the same way. Main statements: `run_lockstep` and `CallsKnown.looked_up`, by which a plan that
calls only names that it knows has looked them up in every run.
-/

namespace ParamTree.Plan

variable {I : Interface} {ε ε' α β γ σ τ : Type}

theorem run_lockstep {answer : (question : I.Question) → Act σ (I.Answer question)}
    {answer' : (question : I.Question) → Act τ (I.Answer question)}
    {note : I.Question → World σ → List γ} {note' : I.Question → World τ → List γ}
    {Good Good' : γ → Prop} {Alike : World σ → World τ → Prop}
    (hStep : ∀ question world world', Alike world world' →
      (∀ x ∈ note question world, Good x) → (∀ x ∈ note' question world', Good' x) →
      (answer' question world').1 = (answer question world).1 ∧
        Alike (answer question world).2 (answer' question world').2)
    (plan : Plan I ε α) {world : World σ} {world' : World τ} (hAlike : Alike world world')
    (hGood : ∀ x ∈ plan.trace answer note world, Good x)
    (hGood' : ∀ x ∈ plan.trace answer' note' world', Good' x) :
    (plan.run answer' world').1 = (plan.run answer world).1 ∧
      Alike (plan.run answer world).2 (plan.run answer' world').2 := by
  induction plan generalizing world world' with
  | done value => exact ⟨rfl, hAlike⟩
  | fail error => exact ⟨rfl, hAlike⟩
  | ask question next ih =>
    rw [trace] at hGood hGood'
    obtain ⟨hReply, hAfter⟩ := hStep question world world' hAlike
      (fun x hx => hGood x (List.mem_append_left _ hx))
      (fun x hx => hGood' x (List.mem_append_left _ hx))
    rcases hAnswer : answer question world with ⟨reply, after⟩
    rcases hAnswer' : answer' question world' with ⟨reply', after'⟩
    rw [hAnswer, hAnswer'] at hReply hAfter
    rw [hAnswer] at hGood
    rw [hAnswer'] at hGood'
    obtain rfl : reply' = reply := hReply
    cases reply' with
    | none =>
      rw [run_ask_crashed answer hAnswer, run_ask_crashed answer' hAnswer']
      exact ⟨rfl, hAfter⟩
    | some reply =>
      rw [run_ask_answered answer hAnswer, run_ask_answered answer' hAnswer']
      exact ih reply hAfter (fun x hx => hGood x (List.mem_append_right _ hx))
        (fun x hx => hGood' x (List.mem_append_right _ hx))

/-- The plan calls only names that are known, or that it has looked up before. -/
inductive CallsKnown (looked called : I.Question → Option String) :
    List String → Plan I ε α → Prop where
  | done (known : List String) (value : α) : CallsKnown looked called known (.done value)
  | fail (known : List String) (error : ε) : CallsKnown looked called known (.fail error)
  | ask {known : List String} {question : I.Question} {next : I.Answer question → Plan I ε α} :
    (∀ name, called question = some name → name ∈ known) →
    (∀ reply, CallsKnown looked called ((looked question).toList ++ known) (next reply)) →
    CallsKnown looked called known (.ask question next)

namespace CallsKnown

variable {looked called : I.Question → Option String} {known : List String}

theorem of_no_call {question : I.Question} {next : I.Answer question → Plan I ε α}
    (hCalled : called question = none)
    (h : ∀ reply, (next reply).CallsKnown looked called ((looked question).toList ++ known)) :
    (Plan.ask question next).CallsKnown looked called known := by
  apply CallsKnown.ask _ h
  intro name hName
  rw [hCalled] at hName
  cases hName

theorem of_call {question : I.Question} {next : I.Answer question → Plan I ε α} {name : String}
    (hCalled : called question = some name) (hName : name ∈ known)
    (h : ∀ reply, (next reply).CallsKnown looked called ((looked question).toList ++ known)) :
    (Plan.ask question next).CallsKnown looked called known := by
  apply CallsKnown.ask _ h
  intro other hOther
  rw [hCalled] at hOther
  exact Option.some.inj hOther ▸ hName

theorem mono {plan : Plan I ε α} (h : plan.CallsKnown looked called known) {others : List String}
    (hKnown : known ⊆ others) : plan.CallsKnown looked called others := by
  induction h generalizing others with
  | done known value => exact .done _ value
  | fail known error => exact .fail _ error
  | ask hCalled _ ih =>
    apply CallsKnown.ask
    · exact fun name hName => hKnown (hCalled name hName)
    · intro reply
      apply ih reply
      exact List.append_subset.mpr
        ⟨List.subset_append_left _ _, List.subset_append_of_subset_right _ hKnown⟩

theorem bind {plan : Plan I ε α} {f : α → Plan I ε β} (h : plan.CallsKnown looked called known)
    (hf : ∀ value, (f value).CallsKnown looked called known) :
    (plan >>= f).CallsKnown looked called known := by
  induction h with
  | done known value => exact hf value
  | fail known error => exact .fail _ error
  | ask hCalled _ ih =>
    apply CallsKnown.ask hCalled
    exact fun reply => ih reply fun value => (hf value).mono (List.subset_append_right _ _)

theorem recover {plan : Plan I ε α} {f : ε → Plan I ε' α} (h : plan.CallsKnown looked called known)
    (hf : ∀ error, (f error).CallsKnown looked called known) :
    (plan.recover f).CallsKnown looked called known := by
  induction h with
  | done known value => exact .done _ value
  | fail known error => exact hf error
  | ask hCalled _ ih =>
    apply CallsKnown.ask hCalled
    exact fun reply => ih reply fun error => (hf error).mono (List.subset_append_right _ _)

theorem mapError {plan : Plan I ε α} (h : plan.CallsKnown looked called known) (f : ε → ε') :
    (plan.mapError f).CallsKnown looked called known :=
  h.recover fun error => .fail _ (f error)

/-- A name that is called in a run has been looked up in it, if what the questions note says so. -/
theorem looked_up {answer : (question : I.Question) → Act σ (I.Answer question)}
    {note : I.Question → World σ → List γ} {plan : Plan I ε α}
    (h : plan.CallsKnown looked called known) {world : World σ} {x : γ}
    (hx : x ∈ plan.trace answer note world) {name : String}
    (notesLookup notesCall : γ → Option String) (hName : notesCall x = some name)
    (hLooked : ∀ question world name, looked question = some name →
      ∃ y ∈ note question world, notesLookup y = some name)
    (hCalled : ∀ question world, ∀ y ∈ note question world, ∀ name, notesCall y = some name →
      called question = some name ∨ ∃ z ∈ note question world, notesLookup z = some name) :
    name ∈ known ∨ ∃ y ∈ plan.trace answer note world, notesLookup y = some name := by
  induction h generalizing world with
  | done known value => cases hx
  | fail known error => cases hx
  | @ask known question next hKnown _ ih =>
    rw [trace] at hx ⊢
    obtain hx | hx := List.mem_append.mp hx
    · obtain hCall | ⟨y, hy, hLookup⟩ := hCalled question world x hx name hName
      · exact .inl (hKnown name hCall)
      · exact .inr ⟨y, List.mem_append_left _ hy, hLookup⟩
    · split at hx
      · rename_i reply after hAnswer
        obtain hMem | ⟨y, hy, hLookup⟩ := ih reply hx
        · obtain hQuestion | hMem := List.mem_append.mp hMem
          · obtain ⟨y, hy, hLookup⟩ := hLooked question world name (Option.mem_toList.mp hQuestion)
            exact .inr ⟨y, List.mem_append_left _ hy, hLookup⟩
          · exact .inl hMem
        · exact .inr ⟨y, List.mem_append_right _ hy, hLookup⟩
      · cases hx

theorem looked_up_exchange {answer : (question : I.Question) → Act σ (I.Answer question)}
    {plan : Plan I ε α} (h : plan.CallsKnown looked called []) {world : World σ}
    {exchange : Exchange I} (hMem : exchange ∈ plan.exchanges answer world) {name : String}
    (hName : called exchange.question = some name) :
    ∃ other ∈ plan.exchanges answer world, looked other.question = some name := by
  rw [exchanges_eq_trace] at hMem ⊢
  refine (h.looked_up hMem (fun exchange => looked exchange.question)
    (fun exchange => called exchange.question) hName ?_ ?_).resolve_left List.not_mem_nil
  · exact fun question world name hLooked => ⟨_, List.mem_singleton_self _, hLooked⟩
  · intro question world other hOther name hCalled
    obtain rfl := List.mem_singleton.mp hOther
    exact .inl hCalled

end CallsKnown

end ParamTree.Plan
