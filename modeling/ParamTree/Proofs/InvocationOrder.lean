import ParamTree.Proofs.Course
import ParamTree.Proofs.Observation

/-!
# Order of invocations

The callables that an evaluation invokes are those of calls of the expression, each at most once and
in the order of the text, a call behind those in its arguments. Whatever fails is the last thing that
an evaluation does. Main statement: `Expr.invocations_inOrder`.
-/

namespace ParamTree

namespace Expr

mutual

/-- No operator of the expression leaves one of its operands out. -/
def isBranchless : Expr → Bool
  | .literal _ => true
  | .array items => allBranchless items
  | .object entries => entriesBranchless entries
  | .name _ => true
  | .call _ args => allBranchless args
  | .member target _ => isBranchless target
  | .index target position => isBranchless target && isBranchless position
  | .unary _ operand => isBranchless operand
  | .binary _ left right => isBranchless left && isBranchless right
  | .and _ _ => false
  | .or _ _ => false
  | .conditional _ _ _ => false

def allBranchless : List Expr → Bool
  | [] => true
  | item :: items => isBranchless item && allBranchless items

def entriesBranchless : List (String × Expr) → Bool
  | [] => true
  | (_, item) :: entries => isBranchless item && entriesBranchless entries

end

end Expr

theorem Ending.eq_failed_iff {ε α : Type} {result : Option (Except ε α)} :
    Ending.of result = .failed ↔ ∃ error, result = some (.error error) := by
  rcases result with _ | _ | _ <;> simp [Ending.of]

/-- What is observed of a run that ends so belongs to the listed calls: to some of them, in their
order, and to all of them if the run is completed and `whole`. Behind a failure only failures are
observed, and with one the run fails. -/
structure OrderlyRun (whole : Prop) (calls : List (String × Nat)) (events : List Event)
    (ending : Ending) : Prop where
  listed : (events.filterMap Event.call?).Sublist calls
  complete : whole → ending = .completed → events.filterMap Event.call? = calls
  quiet : events.Pairwise fun earlier later => earlier.isFailure → later.isFailure
  failed : ∀ event ∈ events, event.isFailure → ending = .failed

namespace OrderlyRun

variable {whole : Prop} {calls others : List (String × Nat)} {events later : List Event}
  {ending : Ending}

theorem nothing (whole : Prop) (ending : Ending) : OrderlyRun whole [] [] ending where
  listed := .slnil
  complete _ _ := rfl
  quiet := .nil
  failed := nofun

/-- A run that is completed goes on. -/
theorem append (h : OrderlyRun whole calls events .completed)
    (hLater : OrderlyRun whole others later ending) :
    OrderlyRun whole (calls ++ others) (events ++ later) ending where
  listed := by
    rw [List.filterMap_append]
    exact h.listed.append hLater.listed
  complete hWhole hEnding := by
    rw [List.filterMap_append, h.complete hWhole rfl, hLater.complete hWhole hEnding]
  quiet := by
    refine List.pairwise_append.mpr ⟨h.quiet, hLater.quiet, ?_⟩
    intro event hEvent _ _ hFailure
    cases h.failed event hEvent hFailure
  failed event hEvent hFailure := by
    obtain hEvent | hEvent := List.mem_append.mp hEvent
    · cases h.failed event hEvent hFailure
    · exact hLater.failed event hEvent hFailure

/-- Any other run is over, whatever else is listed. -/
theorem stop (h : OrderlyRun whole calls events ending) (hEnding : ending ≠ .completed)
    (hCalls : calls.Sublist others) : OrderlyRun whole others events ending where
  listed := h.listed.trans hCalls
  complete _ hCompleted := (hEnding hCompleted).elim
  quiet := h.quiet
  failed := h.failed

theorem fail (h : OrderlyRun whole calls events .failed) (part : Expr) :
    OrderlyRun whole calls (events ++ [.failed part]) .failed where
  listed := by
    rw [List.filterMap_append]
    exact (List.append_nil _).symm ▸ h.listed
  complete _ hCompleted := nomatch hCompleted
  quiet := by
    refine List.pairwise_append.mpr ⟨h.quiet, List.pairwise_singleton _ _, ?_⟩
    intro _ _ event hEvent _
    rw [List.mem_singleton.mp hEvent]
    rfl
  failed _ _ _ := rfl

/-- A run that is not whole may leave listed calls out. -/
theorem among (h : OrderlyRun whole calls events ending) (hCalls : calls.Sublist others)
    {whole' : Prop} (hWhole : ¬whole') : OrderlyRun whole' others events ending where
  listed := h.listed.trans hCalls
  complete hWhole' := (hWhole hWhole').elim
  quiet := h.quiet
  failed := h.failed

theorem imp (h : OrderlyRun whole calls events ending) {whole' : Prop} (hWhole : whole' → whole) :
    OrderlyRun whole' calls events ending where
  listed := h.listed
  complete hWhole' := h.complete (hWhole hWhole')
  quiet := h.quiet
  failed := h.failed

end OrderlyRun

namespace Evaluation

variable {α β : Type}

/-- The plan invokes no callable. -/
inductive Silent : Evaluation α → Prop where
  | done (value : α) : Silent (.done value)
  | fail (error : EvalError) : Silent (.fail error)
  | lookup {name : String} {next : Option Entry → Evaluation α} :
    (∀ entry, Silent (next entry)) → Silent (.ask (ScopeQuestion.lookup name) next)
  | deadline {next : Option Duration → Evaluation α} :
    (∀ limit, Silent (next limit)) → Silent (.ask ScopeQuestion.deadline next)

theorem Silent.bind {plan : Evaluation α} {f : α → Evaluation β} (h : Silent plan)
    (hf : ∀ value, Silent (f value)) : Silent (plan >>= f) := by
  induction h with
  | done value => exact hf value
  | fail error => exact .fail error
  | lookup _ ih => exact .lookup ih
  | deadline _ ih => exact .deadline ih

theorem closedUnderBind_silent : ClosedUnderBind fun plan => Silent plan where
  done := Silent.done
  fail := Silent.fail
  bind := Silent.bind

theorem silent_inTime {plan : Evaluation α} (h : Silent plan) : Silent (inTime plan) := by
  apply Silent.deadline
  rintro (_ | limit)
  · exact h
  · exact .fail _

theorem silent_valueOf (name : String) : Silent (valueOf name) := by
  apply Silent.lookup
  rintro (_ | _ | _)
  · exact .fail _
  · exact .done _
  · exact .fail _

end Evaluation

namespace Observation

open Evaluation

variable {σ α β : Type} (params : ParameterSet σ) (limit : Duration) (start : Nat)

/-- Whatever world the plan is run in, the run is orderly. -/
def Orderly (whole : Prop) (calls : List (String × Nat)) (plan : Observation α) : Prop :=
  ∀ world, OrderlyRun whole calls (events params limit start plan world)
    (Ending.of (plan.run (params.answerObserved limit start) world).1)

variable {params limit start} {whole : Prop} {calls others : List (String × Nat)}

theorem orderly_done (whole : Prop) (value : α) :
    Orderly params limit start whole [] (.done value) :=
  fun _ => .nothing whole .completed

theorem orderly_fail (whole : Prop) (calls : List (String × Nat)) (error : EvalError) :
    Orderly params limit start whole calls (.fail error : Observation α) :=
  fun _ => (OrderlyRun.nothing whole .failed).stop nofun (List.nil_sublist calls)

theorem Orderly.bind {plan : Observation α} {f : α → Observation β}
    (h : Orderly params limit start whole calls plan)
    (hf : ∀ value, Orderly params limit start whole others (f value)) :
    Orderly params limit start whole (calls ++ others) (plan >>= f) := by
  intro world
  have hPlan := h world
  have hCalls := List.sublist_append_left calls others
  rw [events, Plan.trace_bind, Plan.run_bind]
  rcases hRun : plan.run (params.answerObserved limit start) world with
    ⟨_ | error | value, after⟩ <;> rw [hRun] at hPlan ⊢
  · rw [List.append_nil]
    exact hPlan.stop (by rintro ⟨⟩) hCalls
  · rw [List.append_nil]
    exact hPlan.stop (by rintro ⟨⟩) hCalls
  · exact hPlan.append (hf value after)

/-- What goes on without calls lists no others. -/
theorem Orderly.bind_quiet {plan : Observation α} {f : α → Observation β}
    (h : Orderly params limit start whole calls plan)
    (hf : ∀ value, Orderly params limit start whole [] (f value)) :
    Orderly params limit start whole calls (plan >>= f) := by
  rw [← List.append_nil calls]
  exact h.bind hf

theorem Orderly.quiet_bind {plan : Observation α} {f : α → Observation β}
    (h : Orderly params limit start whole [] plan)
    (hf : ∀ value, Orderly params limit start whole calls (f value)) :
    Orderly params limit start whole calls (plan >>= f) :=
  h.bind hf

theorem Orderly.among {plan : Observation α} (h : Orderly params limit start whole calls plan)
    (hCalls : calls.Sublist others) {whole' : Prop} (hWhole : ¬whole') :
    Orderly params limit start whole' others plan :=
  fun world => (h world).among hCalls hWhole

theorem Orderly.imp {plan : Observation α} (h : Orderly params limit start whole calls plan)
    {whole' : Prop} (hWhole : whole' → whole) : Orderly params limit start whole' calls plan :=
  fun world => (h world).imp hWhole

theorem orderly_ofEvaluation {plan : Evaluation α} (h : Silent plan) (whole : Prop)
    (number : Nat) : Orderly params limit start whole [] (ofEvaluation number plan) := by
  induction h with
  | done value => exact orderly_done whole value
  | fail error => exact orderly_fail whole [] error
  | lookup _ ih => exact fun world => ih _ world
  | deadline _ ih => exact fun world => ih _ world

theorem Orderly.part {plan : Observation α} (h : Orderly params limit start whole calls plan)
    (expr : Expr) : Orderly params limit start whole calls (part expr plan) := by
  have hRecover : ∀ {timed : Observation α}, Orderly params limit start whole calls timed →
      Orderly params limit start whole calls (timed.recover fun error =>
        .ask (ObservedQuestion.failed expr) fun _ => .fail error) := by
    intro timed hTimed world
    have hPlan := hTimed world
    rw [events, Plan.trace_recover, Plan.run_recover]
    rcases hRun : timed.run (params.answerObserved limit start) world with
      ⟨_ | error | value, after⟩ <;> rw [hRun] at hPlan ⊢
    · rw [List.append_nil]
      exact hPlan
    · exact hPlan.fail expr
    · rw [List.append_nil]
      exact hPlan
  exact hRecover ((orderly_ofEvaluation (silent_inTime (.done ())) whole 0).bind fun _ => h)

/-- A call is noticed where it reaches a callable, as it does where it succeeds. -/
theorem orderlyRun_noticed (whole : Prop) (number : Nat) {callee : String} {values : List Json}
    {ending : Ending}
    (h : ending = .completed → params.entry? callee = some (.function values.length))
    (world : World σ) :
    OrderlyRun whole [(callee, number)]
      (params.noticed (.asked number (.invoke callee values)) world) ending := by
  rw [ParameterSet.noticed, ParameterSet.invoked]
  split
  · exact ⟨.refl _, fun _ _ => rfl, List.pairwise_singleton _ _, by simp [Event.isFailure]⟩
  · rename_i hEntry
    refine ⟨List.nil_sublist _, fun _ hEnding => (hEntry (h hEnding)).elim, .nil, ?_⟩
    rintro _ ⟨⟩

theorem run_invoke (number : Nat) (callee : String) (values : List Json) (world : World σ) :
    (ofEvaluation number (invoke callee values)).run (params.answerObserved limit start) world =
      ((params.call callee values world).1.map .ok, (params.call callee values world).2) := by
  rw [← run_forget, forget_ofEvaluation]
  have hAnswer : params.answer limit start (.invoke callee values) world =
      params.call callee values world := rfl
  rcases hCall : params.call callee values world with ⟨_ | reply, after⟩
  · exact Plan.run_ask_crashed _ (hAnswer.trans hCall)
  · exact Plan.run_ask_answered _ (hAnswer.trans hCall)

theorem events_invoke (number : Nat) (callee : String) (values : List Json) (world : World σ) :
    events params limit start (ofEvaluation number (invoke callee values)) world =
      params.noticed (.asked number (.invoke callee values)) world := by
  have hAnswer : params.answerObserved limit start (.asked number (.invoke callee values)) world =
      params.call callee values world := rfl
  rcases hCall : params.call callee values world with ⟨_ | reply, after⟩
  · exact Plan.trace_ask_crashed _ _ (hAnswer.trans hCall)
  · exact (Plan.trace_ask_answered _ _ (hAnswer.trans hCall)).trans (List.append_nil _)

theorem orderly_invoke (whole : Prop) (number : Nat) (callee : String) (values : List Json)
    {next : Except String Json → Observation α}
    (hOk : ∀ value, Orderly params limit start whole [] (next (.ok value)))
    (hError : ∀ message, ∃ error, next (.error message) = .fail error) :
    Orderly params limit start whole [(callee, number)]
      (ofEvaluation number (invoke callee values) >>= next) := by
  intro world
  rw [events, Plan.trace_bind, Plan.run_bind, run_invoke, ← events, events_invoke]
  rcases hCall : params.call callee values world with ⟨_ | message | value, after⟩
  · change OrderlyRun _ _ (_ ++ []) .crashed
    rw [List.append_nil]
    refine orderlyRun_noticed whole number ?_ world
    rintro ⟨⟩
  · -- the callable may have been invoked and have failed, or there was no such call
    obtain ⟨error, hFail⟩ := hError message
    simp only [Option.map_some, hFail]
    change OrderlyRun _ _ (_ ++ []) .failed
    rw [List.append_nil]
    refine orderlyRun_noticed whole number ?_ world
    rintro ⟨⟩
  · exact (orderlyRun_noticed whole number (fun _ => ParameterSet.entry?_of_call hCall) world).append
      (hOk value after)

theorem orderly_callWith {plan : Observation (List Json)}
    (h : Orderly params limit start whole calls plan) (number : Nat) (callee : String) :
    Orderly params limit start whole (calls ++ [(callee, number)])
      (callWith number callee plan) := by
  apply (orderly_ofEvaluation (.lookup fun _ => .done _) whole number).quiet_bind
  rintro (_ | _ | arity)
  · exact orderly_fail whole _ _
  · exact orderly_fail whole _ _
  · apply h.bind
    intro values
    apply orderly_invoke
    · intro value
      exact orderly_ofEvaluation (silent_inTime (.done _)) whole number
    · intro message
      exact ⟨_, rfl⟩

theorem failed_mem_events_part {expr : Expr} {plan : Observation α} {world : World σ}
    {error : EvalError}
    (h : ((part expr plan).run (params.answerObserved limit start) world).1 =
      some (.error error)) :
    .failed expr ∈ events params limit start (part expr plan) world := by
  rw [part, Plan.run_recover] at h
  rw [events, part, Plan.trace_recover]
  split at h
  · cases h
  · rename_i hRun
    rw [hRun]
    exact List.mem_append_right _ List.mem_cons_self
  · cases h

end Observation

namespace Expr

open Evaluation Observation

variable {σ : Type} (params : ParameterSet σ) (limit : Duration) (start : Nat)

mutual

theorem orderly_observe (expr : Expr) (first : Nat) :
    Orderly params limit start (expr.isBranchless = true) (expr.callees.zipIdx first)
      (expr.observe first) := by
  -- numbers go on behind the calls of the parts before, as `zipIdx` does behind an appended list
  cases expr
  all_goals
    rw [observe, callees, isBranchless]
    apply Orderly.part
  case literal value => exact orderly_done _ _
  case array items =>
    exact (orderly_observeAll _ 1 first items).bind_quiet fun _ => orderly_done _ _
  case object entries =>
    exact (orderly_observeEntries first entries).bind_quiet fun _ => orderly_done _ _
  case name id => exact orderly_ofEvaluation (silent_valueOf id) _ first
  case call callee args =>
    rw [List.zipIdx_append]
    exact orderly_callWith (orderly_observeAll _ 1 first args) _ callee
  case member target property =>
    apply (orderly_observe target first).bind_quiet
    intro value
    exact orderly_ofEvaluation (closedUnderBind_silent.ofFaulty _) _ first
  case index target position =>
    rw [List.zipIdx_append]
    apply ((orderly_observe target first).imp fun h => (Bool.and_eq_true_iff.mp h).1).bind
    intro value
    apply ((orderly_observe position _).imp fun h => (Bool.and_eq_true_iff.mp h).2).bind_quiet
    intro index
    have hSelect := (closedUnderBind_silent.require .index index).bind fun index =>
      closedUnderBind_silent.ofFaulty (Json.select index value)
    exact orderly_ofEvaluation hSelect _ first
  case unary op operand =>
    apply (orderly_observe operand first).bind_quiet
    intro value
    exact (orderly_ofEvaluation (closedUnderBind_silent.unary op value) _ first).bind_quiet fun _ =>
      orderly_done _ _
  case binary op left right =>
    rw [List.zipIdx_append]
    apply ((orderly_observe left first).imp fun h => (Bool.and_eq_true_iff.mp h).1).bind
    intro value
    apply ((orderly_observe right _).imp fun h => (Bool.and_eq_true_iff.mp h).2).bind_quiet
    intro other
    exact (orderly_ofEvaluation (closedUnderBind_silent.binary op value other) _ first).bind_quiet
      fun _ => orderly_done _ _
  case and left right =>
    -- what branches is never whole, so a branch that is not taken may be left out
    rw [List.zipIdx_append]
    apply ((orderly_observe left first).among (.refl _) Bool.false_ne_true).bind
    intro value
    split
    · exact (orderly_observe right _).among (.refl _) Bool.false_ne_true
    · exact (orderly_done True _).among (List.nil_sublist _) Bool.false_ne_true
  case or left right =>
    rw [List.zipIdx_append]
    apply ((orderly_observe left first).among (.refl _) Bool.false_ne_true).bind
    intro value
    split
    · exact (orderly_done True _).among (List.nil_sublist _) Bool.false_ne_true
    · exact (orderly_observe right _).among (.refl _) Bool.false_ne_true
  case conditional condition yes no =>
    rw [List.append_assoc, List.zipIdx_append]
    apply ((orderly_observe condition first).among (.refl _) Bool.false_ne_true).bind
    intro value
    rw [List.zipIdx_append]
    split
    · exact (orderly_observe yes _).among (List.sublist_append_left _ _) Bool.false_ne_true
    · rw [List.length_append, ← Nat.add_assoc]
      exact (orderly_observe no _).among (List.sublist_append_right _ _) Bool.false_ne_true

theorem orderly_observeAll (place : Nat → Place) (position first : Nat) (items : List Expr) :
    Orderly params limit start (allBranchless items = true) ((calleesOfAll items).zipIdx first)
      (observeAll place position first items) := by
  cases items with
  | nil =>
    rw [observeAll]
    exact orderly_done _ _
  | cons item items =>
    rw [observeAll, calleesOfAll, allBranchless, List.zipIdx_append]
    apply ((orderly_observe item first).imp fun h => (Bool.and_eq_true_iff.mp h).1).bind
    intro result
    apply (orderly_ofEvaluation (closedUnderBind_silent.require _ result) _ first).quiet_bind
    intro value
    exact ((orderly_observeAll place _ _ items).imp fun h =>
      (Bool.and_eq_true_iff.mp h).2).bind_quiet fun _ => orderly_done _ _

theorem orderly_observeEntries (first : Nat) (entries : List (String × Expr)) :
    Orderly params limit start (entriesBranchless entries = true)
      ((calleesOfEntries entries).zipIdx first) (observeEntries first entries) := by
  cases entries with
  | nil =>
    rw [observeEntries]
    exact orderly_done _ _
  | cons entry entries =>
    obtain ⟨key, item⟩ := entry
    rw [observeEntries, calleesOfEntries, entriesBranchless, List.zipIdx_append]
    apply ((orderly_observe item first).imp fun h => (Bool.and_eq_true_iff.mp h).1).bind
    intro result
    apply ((orderly_observeEntries _ entries).imp fun h => (Bool.and_eq_true_iff.mp h).2).bind_quiet
    intro fields
    cases result <;> exact orderly_done _ _

end

/-- The failure of an expression is observed where it fails. -/
theorem failed_mem_events_iff (expr : Expr) (first : Nat) (world : World σ) :
    Event.failed expr ∈ events params limit start (expr.observe first) world ↔
      ∃ error, ((expr.observe first).run (params.answerObserved limit start) world).1 =
        some (.error error) := by
  constructor
  · intro hMem
    have hFailed := (orderly_observe params limit start expr first world).failed _ hMem rfl
    exact Ending.eq_failed_iff.mp hFailed
  · rintro ⟨error, hError⟩
    obtain ⟨plan, hPlan⟩ : ∃ plan, expr.observe first = part expr plan := by
      cases expr
      all_goals
        rw [observe]
        exact ⟨_, rfl⟩
    rw [hPlan] at hError ⊢
    exact failed_mem_events_part hError

/-- An evaluation is observed with the result and the invocations that it has unobserved. It invokes
callables by calls of the expression, each at most once and in their order; by all of them if no
operator leaves any out and the run succeeds. Nothing is invoked behind the failure of a part, and
the expression fails exactly if the run does. -/
theorem invocations_inOrder (expr : Expr) (world : World σ) :
    let answer := params.answer limit start
    let observed := events params limit start (expr.observe 0) world
    (expr.observe 0).run (params.answerObserved limit start) world =
      expr.evaluate.run answer world ∧
    observed.filterMap Event.invocation? = expr.evaluate.trace answer params.invoked world ∧
    (observed.filterMap Event.call?).Sublist expr.callees.zipIdx ∧
    (expr.isBranchless = true →
      (∃ value, (expr.evaluate.run answer world).1 = some (.ok value)) →
      observed.filterMap Event.call? = expr.callees.zipIdx) ∧
    (∀ before part after, observed = before ++ .failed part :: after →
      after.filterMap Event.invocation? = []) ∧
    (.failed expr ∈ observed ↔
      ∃ error, (expr.evaluate.run answer world).1 = some (.error error)) := by
  intro answer observed
  have hOrderly := orderly_observe params limit start expr 0 world
  have hRun : (expr.observe 0).run (params.answerObserved limit start) world =
      expr.evaluate.run answer world := by
    rw [← run_forget, forget_observe]
  refine ⟨hRun, ?_, hOrderly.listed, ?_, ?_, ?_⟩
  · rw [invocations_events, forget_observe]
  · rintro hBranchless ⟨value, hValue⟩
    rw [← hRun] at hValue
    exact hOrderly.complete hBranchless (by rw [hValue]; rfl)
  · intro before failing after hObserved
    have hQuiet := hOrderly.quiet
    change observed.Pairwise _ at hQuiet
    rw [hObserved] at hQuiet
    have hAfter := (List.pairwise_cons.mp (List.pairwise_append.mp hQuiet).2.1).1
    apply List.filterMap_eq_nil_iff.mpr
    intro event hEvent
    have hFailure := hAfter event hEvent rfl
    cases event with
    | invoked number invocation => cases hFailure
    | failed part => rfl
  · rw [← hRun]
    exact failed_mem_events_iff params limit start expr 0 world

/-- Behind the failure of the second call, the third one is left out. -/
example :
    let params : ParameterSet Unit :=
      .insert (.insert .empty "f" (.callable (.ofFunction 0 fun _ => .ok .null))) "g"
        (.callable (.ofFunction 1 fun _ => .error "unable"))
    let failing := call "g" [call "f" []]
    let expr := array [failing, call "f" []]
    expr.callees.zipIdx = [("f", 0), ("g", 1), ("f", 2)] ∧
    events params ⟨1⟩ 0 (expr.observe 0) ⟨(), 0⟩ =
      [.invoked 0 ⟨"f", []⟩, .invoked 1 ⟨"g", [.null]⟩, .failed failing, .failed expr] :=
  ⟨rfl, rfl⟩

end Expr

end ParamTree
