import ParamTree.Proofs.Untimed

/-!
# Observed evaluation

An evaluation that also says which call of the expression invokes a callable, and which parts of the
expression fail. The calls are numbered from left to right, a call behind those in its arguments.
Main statement: `Expr.forget_observe`, by which this is the evaluation of the expression, observed.
-/

namespace ParamTree

open Evaluation

namespace Expr

mutual

/-- The names that are called, from left to right, a call behind those in its arguments. -/
def callees : Expr → List String
  | .literal _ => []
  | .array items => calleesOfAll items
  | .object entries => calleesOfEntries entries
  | .name _ => []
  | .call callee args => calleesOfAll args ++ [callee]
  | .member target _ => callees target
  | .index target position => callees target ++ callees position
  | .unary _ operand => callees operand
  | .binary _ left right => callees left ++ callees right
  | .and left right => callees left ++ callees right
  | .or left right => callees left ++ callees right
  | .conditional condition yes no => callees condition ++ callees yes ++ callees no

def calleesOfAll : List Expr → List String
  | [] => []
  | item :: items => callees item ++ calleesOfAll items

def calleesOfEntries : List (String × Expr) → List String
  | [] => []
  | (_, item) :: entries => callees item ++ calleesOfEntries entries

end

end Expr

inductive ObservedQuestion where
  /-- A question of the part with the number; a call has the number under which it is listed. -/
  | asked (number : Nat) (question : ScopeQuestion)
  /-- The part has failed. -/
  | failed (part : Expr)

def ObservedQuestion.Answer : ObservedQuestion → Type
  | asked _ question => question.Answer
  | failed _ => Unit

abbrev observedScope : Interface :=
  ⟨ObservedQuestion, ObservedQuestion.Answer⟩

abbrev Observation (α : Type) : Type := Plan observedScope EvalError α

namespace Observation

variable {α β : Type}

def ofEvaluation (number : Nat) : Evaluation α → Observation α
  | .done value => .done value
  | .fail error => .fail error
  | .ask question next =>
    .ask (ObservedQuestion.asked number question) fun reply => ofEvaluation number (next reply)

/-- The evaluation that is observed. -/
def forget : Observation α → Evaluation α
  | .done value => .done value
  | .fail error => .fail error
  | .ask (.asked _ question) next => .ask question fun reply => forget (next reply)
  | .ask (.failed _) next => forget (next ())

/-- The evaluation of a part of an expression, whose failure is observed. -/
def part (expr : Expr) (plan : Observation α) : Observation α :=
  (ofEvaluation 0 (inTime (.done ())) >>= fun _ => plan).recover fun error =>
    .ask (ObservedQuestion.failed expr) fun _ => .fail error

def callWith (number : Nat) (callee : String) (args : Observation (List Json)) :
    Observation (Option Json) := do
  match ← ofEvaluation number (lookup callee) with
  | some (.function _) => do
    let values ← args
    match ← ofEvaluation number (invoke callee values) with
    | .ok value => ofEvaluation number (inTime (.done (some value)))
    | .error message => .fail (.ofFault (.callFailed callee message))
  | some (.value _) => .fail (.ofFault (.isNotFunction callee))
  | none => .fail (.undefinedName callee)

theorem forget_ofEvaluation (number : Nat) (plan : Evaluation α) :
    forget (ofEvaluation number plan) = plan := by
  induction plan with
  | done value => rfl
  | fail error => rfl
  | ask question next ih => exact congrArg (Plan.ask question) (funext ih)

theorem forget_bind (plan : Observation α) (f : α → Observation β) :
    forget (plan >>= f) = forget plan >>= fun value => forget (f value) := by
  induction plan with
  | done value => rfl
  | fail error => rfl
  | ask question next ih =>
    cases question with
    | asked number question =>
      exact congrArg (@Plan.ask scope EvalError β question) (funext ih)
    | failed part => exact ih ()

theorem forget_part (expr : Expr) (plan : Observation α) :
    forget (part expr plan) = inTime (forget plan) := by
  have hRecover : ∀ observed : Observation α, forget (observed.recover fun error =>
      .ask (ObservedQuestion.failed expr) fun _ => .fail error) = forget observed := by
    intro observed
    induction observed with
    | done value => rfl
    | fail error => rfl
    | ask question next ih =>
      cases question with
      | asked number question =>
        exact congrArg (@Plan.ask scope EvalError α question) (funext ih)
      | failed part => exact ih ()
  rw [part, hRecover, forget_bind, forget_ofEvaluation, inTime_bind, Plan.done_bind]

theorem forget_callWith (number : Nat) (callee : String) (args : Observation (List Json)) :
    forget (callWith number callee args) = Evaluation.callWith callee (forget args) := by
  rw [callWith, forget_bind, forget_ofEvaluation, Evaluation.callWith]
  apply bind_congr
  rintro (_ | _ | arity)
  · rfl
  · rfl
  · change forget (args >>= _) = forget args >>= _
    rw [forget_bind]
    apply bind_congr
    intro values
    rw [forget_bind, forget_ofEvaluation]
    apply bind_congr
    rintro (message | value)
    · rfl
    · exact forget_ofEvaluation number _

end Observation

namespace Expr

open Observation

mutual

/-- The evaluation of the expression, whose calls are numbered from `first`. -/
def observe (first : Nat) : Expr → Observation (Option Json)
  | .literal value => part (.literal value) (.done (some value))
  | .array items => part (.array items) do
    let values ← observeAll (fun _ => .arrayItem) 1 first items
    return some (.array values)
  | .object entries => part (.object entries) do
    let fields ← observeEntries first entries
    return some (.object (Entries.ofList fields))
  | .name id => part (.name id) (ofEvaluation first (valueOf id))
  | .call callee args => part (.call callee args)
    (Observation.callWith (first + (calleesOfAll args).length) callee
      (observeAll (fun i => .argument i callee) 1 first args))
  | .member target property => part (.member target property) do
    let value ← observe first target
    ofEvaluation first (ofFaulty (Json.member property value))
  | .index target position => part (.index target position) do
    let value ← observe first target
    let index ← observe (first + target.callees.length) position
    ofEvaluation first do
      let index ← require .index index
      ofFaulty (Json.select index value)
  | .unary op operand => part (.unary op operand) do
    let value ← observe first operand
    let value ← ofEvaluation first (op.evaluate value)
    return some value
  | .binary op left right => part (.binary op left right) do
    let value ← observe first left
    let other ← observe (first + left.callees.length) right
    let value ← ofEvaluation first (op.evaluate value other)
    return some value
  | .and left right => part (.and left right) do
    let value ← observe first left
    if truthy value then observe (first + left.callees.length) right else return value
  | .or left right => part (.or left right) do
    let value ← observe first left
    if truthy value then return value else observe (first + left.callees.length) right
  | .conditional condition yes no => part (.conditional condition yes no) do
    let value ← observe first condition
    if truthy value then
      observe (first + condition.callees.length) yes
    else
      observe (first + (condition.callees ++ yes.callees).length) no

def observeAll (place : Nat → Place) (position first : Nat) :
    List Expr → Observation (List Json)
  | [] => return []
  | item :: items => do
    let result ← observe first item
    let value ← ofEvaluation first (require (place position) result)
    let values ← observeAll place (position + 1) (first + item.callees.length) items
    return value :: values

def observeEntries (first : Nat) : List (String × Expr) → Observation (List (String × Json))
  | [] => return []
  | (key, item) :: entries => do
    let result ← observe first item
    let fields ← observeEntries (first + item.callees.length) entries
    match result with
    | some value => return (key, value) :: fields
    | none => return fields

end

mutual

/-- Without what is observed, the evaluation is that of the expression. -/
theorem forget_observe (expr : Expr) (first : Nat) :
    forget (expr.observe first) = expr.evaluate := by
  cases expr
  all_goals
    rw [observe, evaluate, forget_part]
    apply congrArg inTime
  case literal value => rfl
  case array items =>
    rw [forget_bind, forget_observeAll]
    rfl
  case object entries =>
    rw [forget_bind, forget_observeEntries]
    rfl
  case name id => rw [forget_ofEvaluation]
  case call callee args => rw [forget_callWith, forget_observeAll]
  case member target property =>
    simp only [forget_bind, forget_ofEvaluation, forget_observe]
  case index target position =>
    simp only [forget_bind, forget_ofEvaluation, forget_observe]
  case unary op operand =>
    simp only [forget_bind, forget_ofEvaluation, forget_observe]
    rfl
  case binary op left right =>
    simp only [forget_bind, forget_ofEvaluation, forget_observe]
    rfl
  case and left right =>
    rw [forget_bind, forget_observe]
    apply bind_congr
    intro value
    split
    · exact forget_observe right _
    · rfl
  case or left right =>
    rw [forget_bind, forget_observe]
    apply bind_congr
    intro value
    split
    · rfl
    · exact forget_observe right _
  case conditional condition yes no =>
    rw [forget_bind, forget_observe]
    apply bind_congr
    intro value
    split
    · exact forget_observe yes _
    · exact forget_observe no _

theorem forget_observeAll (place : Nat → Place) (position first : Nat) (items : List Expr) :
    forget (observeAll place position first items) = evaluateAll place position items := by
  cases items with
  | nil =>
    rw [observeAll, evaluateAll]
    rfl
  | cons item items =>
    rw [observeAll, evaluateAll]
    simp only [forget_bind, forget_ofEvaluation, forget_observe, forget_observeAll]
    rfl

theorem forget_observeEntries (first : Nat) (entries : List (String × Expr)) :
    forget (observeEntries first entries) = evaluateEntries entries := by
  cases entries with
  | nil =>
    rw [observeEntries, evaluateEntries]
    rfl
  | cons entry entries =>
    obtain ⟨key, item⟩ := entry
    rw [observeEntries, evaluateEntries]
    simp only [forget_bind, forget_observe, forget_observeEntries]
    apply bind_congr
    rintro (_ | value) <;> rfl

end

end Expr

/-- Something that is observed. -/
inductive Event where
  | invoked (number : Nat) (invocation : Invocation)
  | failed (part : Expr)

namespace Event

def invocation? : Event → Option Invocation
  | invoked _ invocation => some invocation
  | failed _ => none

/-- The name and the number of the call that invokes a callable. -/
def call? : Event → Option (String × Nat)
  | invoked number invocation => some (invocation.name, number)
  | failed _ => none

def isFailure : Event → Bool
  | invoked _ _ => false
  | failed _ => true

end Event

namespace ParameterSet

variable {σ : Type} (params : ParameterSet σ) (limit : Duration) (start : Nat)

def answerObserved : (question : ObservedQuestion) → Act σ question.Answer
  | .asked _ question, world => params.answer limit start question world
  | .failed _, world => (some (), world)

def noticed : ObservedQuestion → World σ → List Event
  | .asked number question, world => (params.invoked question world).map (.invoked number)
  | .failed part, _ => [.failed part]

end ParameterSet

namespace Observation

variable {σ α : Type} (params : ParameterSet σ) (limit : Duration) (start : Nat)

/-- What is observed of a run, in its order. -/
def events (plan : Observation α) (world : World σ) : List Event :=
  plan.trace (params.answerObserved limit start) params.noticed world

theorem run_forget (plan : Observation α) (world : World σ) :
    (forget plan).run (params.answer limit start) world =
      plan.run (params.answerObserved limit start) world := by
  induction plan generalizing world with
  | done value => rfl
  | fail error => rfl
  | ask question next ih =>
    cases question with
    | failed part => exact ih () world
    | asked number question =>
      have hAnswer : params.answerObserved limit start (.asked number question) world =
          params.answer limit start question world := rfl
      rw [forget, Plan.run, Plan.run, hAnswer]
      split
      · exact ih _ _
      · rfl

theorem invocations_events (plan : Observation α) (world : World σ) :
    (events params limit start plan world).filterMap Event.invocation? =
      (forget plan).trace (params.answer limit start) params.invoked world := by
  rw [events]
  induction plan generalizing world with
  | done value => rfl
  | fail error => rfl
  | ask question next ih =>
    cases question with
    | failed part => exact ih () world
    | asked number question =>
      have hAnswer : params.answerObserved limit start (.asked number question) world =
          params.answer limit start question world := rfl
      rw [forget, Plan.trace, Plan.trace, hAnswer, List.filterMap_append]
      have hNoticed : (params.noticed (.asked number question) world).filterMap
          Event.invocation? = params.invoked question world := by
        simp [ParameterSet.noticed, List.filterMap_map, Event.invocation?, Function.comp_def]
      rw [hNoticed]
      split
      · exact congrArg _ (ih _ _)
      · rfl

end Observation

end ParamTree
