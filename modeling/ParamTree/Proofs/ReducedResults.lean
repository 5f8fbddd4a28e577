import ParamTree.Proofs.ReducedNumbers
import ParamTree.Proofs.Untimed

/-!
# Numbers that expressions come to

An evaluation whose literals, parameters and replies of callables have reduced numbers only has a
result of reduced numbers only, whatever it selects, computes and passes on. Main statements:
`Expr.IsReduced.evaluate` and `Expr.IsReduced.of_reaches`.
-/

namespace ParamTree

open Evaluation

namespace Json.IsReduced

variable {target result : Option Json}

theorem member {property : String} (h : ∀ value ∈ target, value.IsReduced)
    (hMember : Json.member property target = .ok result) : ∀ value ∈ result, value.IsReduced := by
  intro value hResult
  have hLength : ∀ {count : Nat}, (if property = "length" then some (ofNat count) else none) =
      result → value.IsReduced := by
    rintro count rfl
    split at hResult
    · cases hResult
      exact .number rfl
    · cases hResult
  cases target with
  | none => cases hMember
  | some target =>
    cases target with
    | null => cases hMember
    | bool _ | number _ =>
      cases hMember
      cases hResult
    | string text => exact hLength (Except.ok.inj hMember)
    | array items => exact hLength (Except.ok.inj hMember)
    | object fields =>
      cases hMember
      cases h _ rfl with
      | object hFields => exact hFields _ (Entries.mem_of_get? hResult)

theorem select {index : Json} (h : ∀ value ∈ target, value.IsReduced)
    (hSelect : Json.select index target = .ok result) : ∀ value ∈ result, value.IsReduced := by
  rw [Json.select.eq_def] at hSelect
  split at hSelect
  · cases hSelect
  split at hSelect
  · rename_i items n
    cases hSelect
    intro value hResult
    obtain ⟨i, -, hItem⟩ := Option.bind_eq_some_iff.mp hResult
    cases h _ rfl with
    | array hItems => exact hItems value (List.mem_of_getElem? hItem)
  · exact member h hSelect
  · cases hSelect
  · cases hSelect
    nofun

end Json.IsReduced

theorem Json.isReduced_of_arithmetic {op : Arithmetic} {left right value : Json}
    (h : Json.arithmetic op left right = .ok value) : value.IsReduced := by
  rw [Json.arithmetic.eq_def] at h
  split at h
  · cases h
    exact .string _
  split at h
  · obtain ⟨n, hNumber, rfl⟩ := Lexer.map_eq_ok h
    exact .number (Number.isReduced_of_arithmetic hNumber)
  · cases h

/-- The answer brings reduced numbers only. -/
def ScopeQuestion.IsReduced : (question : ScopeQuestion) → question.Answer → Prop
  | lookup _, entry => ∀ value, entry = some (.value value) → value.IsReduced
  | invoke _ _, result => ∀ value, result = .ok value → value.IsReduced
  | deadline, _ => True

namespace Evaluation

variable {α β : Type} {P : α → Prop} {Q : β → Prop}

/-- As long as the answers bring reduced numbers only, a value that the plan comes to is as said. -/
inductive Yields (P : α → Prop) : Evaluation α → Prop where
  | done {value : α} : P value → Yields P (.done value)
  | fail (error : EvalError) : Yields P (.fail error)
  | ask {question : ScopeQuestion} {next : question.Answer → Evaluation α} :
    (∀ reply, question.IsReduced reply → Yields P (next reply)) → Yields P (.ask question next)

theorem Yields.bind {plan : Evaluation α} {f : α → Evaluation β} (h : Yields P plan)
    (hf : ∀ value, P value → Yields Q (f value)) : Yields Q (plan >>= f) := by
  induction h with
  | done hValue => exact hf _ hValue
  | fail error => exact .fail error
  | ask _ ih => exact .ask ih

theorem Yields.of_run {plan : Evaluation α} (h : Yields P plan) {σ : Type}
    {answer : (question : ScopeQuestion) → Act σ question.Answer}
    (hAnswer : ∀ question world reply after, answer question world = (some reply, after) →
      question.IsReduced reply) {world after : World σ} {value : α}
    (hRun : plan.run answer world = (some (.ok value), after)) : P value := by
  induction h generalizing world with
  | done hValue =>
    cases hRun
    exact hValue
  | fail error => cases hRun
  | @ask question next _ ih =>
    rw [Plan.run] at hRun
    split at hRun
    · rename_i reply middle hReply
      exact ih reply (hAnswer _ _ _ _ hReply) hRun
    · cases hRun

theorem yields_inTime {plan : Evaluation α} (h : Yields P plan) : Yields P (inTime plan) := by
  apply Yields.ask
  rintro (_ | limit) -
  · exact h
  · exact .fail _

theorem yields_ofFaulty {result : Except Fault α} (h : ∀ value, result = .ok value → P value) :
    Yields P (ofFaulty result) := by
  cases result with
  | ok value => exact .done (h value rfl)
  | error f => exact .fail _

theorem yields_require {place : Place} {result : Option Json}
    (h : ∀ value ∈ result, value.IsReduced) : Yields Json.IsReduced (require place result) := by
  cases result with
  | some value => exact .done (h value rfl)
  | none => exact .fail _

theorem yields_valueOf (name : String) :
    Yields (fun result => ∀ value ∈ result, Json.IsReduced value) (valueOf name) := by
  apply Yields.ask
  rintro (_ | value | arity) hEntry
  · exact .fail _
  · apply Yields.done
    rintro _ ⟨⟩
    exact hEntry value rfl
  · exact .fail _

theorem yields_callWith (callee : String) {P : List Json → Prop}
    {args : Evaluation (List Json)} (h : Yields P args) :
    Yields (fun result => ∀ value ∈ result, Json.IsReduced value) (callWith callee args) := by
  apply Yields.ask
  rintro (_ | value | arity) -
  · exact .fail _
  · exact .fail _
  · apply h.bind
    intro values _
    apply Yields.ask
    rintro (message | value) hReply
    · exact .fail _
    · apply yields_inTime
      apply Yields.done
      rintro _ ⟨⟩
      exact hReply value rfl

theorem yields_unary (op : UnaryOp) {operand : Option Json}
    (h : ∀ value ∈ operand, value.IsReduced) :
    Yields Json.IsReduced (op.evaluate operand) := by
  cases op with
  | not => exact .done (.bool _)
  | neg =>
    apply (yields_require h).bind
    intro value _
    apply yields_ofFaulty
    intro result hNegate
    cases value <;> cases hNegate
    exact .number (Number.isReduced_negate _)
  | plus =>
    apply (yields_require h).bind
    intro value hValue
    apply yields_ofFaulty
    intro result hPlus
    -- the sign changes nothing, so the number is reduced only because the operand is
    cases value <;> cases hPlus
    exact hValue

theorem yields_binary (op : BinaryOp) {left right : Option Json}
    (hLeft : ∀ value ∈ left, value.IsReduced) (hRight : ∀ value ∈ right, value.IsReduced) :
    Yields Json.IsReduced (op.evaluate left right) := by
  cases op with
  | eq | notEq => exact .done (.bool _)
  | arith op =>
    apply (yields_require hLeft).bind
    intro left _
    apply (yields_require hRight).bind
    intro right _
    exact yields_ofFaulty fun value hResult => Json.isReduced_of_arithmetic hResult
  | order relation =>
    apply (yields_require hLeft).bind
    intro left _
    apply (yields_require hRight).bind
    intro right _
    apply yields_ofFaulty
    intro value hResult
    obtain ⟨order, -, rfl⟩ := Lexer.map_eq_ok hResult
    exact .bool _

end Evaluation

namespace Expr

/-- What is said of an expression whose literals are reduced. -/
abbrev YieldsReduced (expr : Expr) : Prop :=
  Yields (fun result => ∀ value ∈ result, Json.IsReduced value) expr.evaluate

theorem yields_evaluateAll {items : List Expr} (h : ∀ item ∈ items, item.YieldsReduced)
    (place : Nat → Place) (position : Nat) :
    Yields (fun values => ∀ value ∈ values, Json.IsReduced value)
      (evaluateAll place position items) := by
  induction items generalizing position with
  | nil =>
    rw [evaluateAll]
    exact .done nofun
  | cons item items ih =>
    obtain ⟨hItem, hItems⟩ := List.forall_mem_cons.mp h
    rw [evaluateAll]
    apply hItem.bind
    intro result hResult
    apply (yields_require hResult).bind
    intro value hValue
    apply (ih hItems (position + 1)).bind
    intro values hValues
    exact .done (List.forall_mem_cons.mpr ⟨hValue, hValues⟩)

theorem yields_evaluateEntries {entries : List (String × Expr)}
    (h : ∀ entry ∈ entries, entry.2.YieldsReduced) :
    Yields (fun fields => ∀ field ∈ fields, Json.IsReduced field.2)
      (evaluateEntries entries) := by
  induction entries with
  | nil =>
    rw [evaluateEntries]
    exact .done nofun
  | cons entry entries ih =>
    obtain ⟨key, item⟩ := entry
    obtain ⟨hItem, hEntries⟩ := List.forall_mem_cons.mp h
    rw [evaluateEntries]
    apply hItem.bind
    intro result hResult
    apply (ih hEntries).bind
    intro fields hFields
    cases result with
    | some value => exact .done (List.forall_mem_cons.mpr ⟨hResult value rfl, hFields⟩)
    | none => exact .done hFields

/-- The result of an expression that writes reduced numbers has reduced numbers. -/
theorem IsReduced.evaluate {expr : Expr} (h : expr.IsReduced) : expr.YieldsReduced := by
  induction h
  all_goals
    rw [YieldsReduced, Expr.evaluate]
    apply yields_inTime
  case literal value hValue =>
    apply Yields.done
    rintro _ ⟨⟩
    exact hValue
  case array items _ ih =>
    apply (yields_evaluateAll ih _ 1).bind
    intro values hValues
    apply Yields.done
    rintro _ ⟨⟩
    exact .array hValues
  case object entries _ ih =>
    apply (yields_evaluateEntries ih).bind
    intro fields hFields
    apply Yields.done
    rintro _ ⟨⟩
    exact .object fun field hMem => hFields field (Entries.mem_of_mem_ofList hMem)
  case name id => exact yields_valueOf id
  case call callee args _ ih => exact yields_callWith callee (yields_evaluateAll ih _ 1)
  case member property target _ ih =>
    apply ih.bind
    intro target hTarget
    exact yields_ofFaulty fun result hMember => Json.IsReduced.member hTarget hMember
  case index target position _ _ ih ih' =>
    apply ih.bind
    intro target hTarget
    apply ih'.bind
    intro index hIndex
    apply (yields_require hIndex).bind
    intro index _
    exact yields_ofFaulty fun result hSelect => Json.IsReduced.select hTarget hSelect
  case unary op operand _ ih =>
    apply ih.bind
    intro operand hOperand
    apply (yields_unary op hOperand).bind
    intro value hValue
    apply Yields.done
    rintro _ ⟨⟩
    exact hValue
  case binary op left right _ _ ih ih' =>
    apply ih.bind
    intro left hLeft
    apply ih'.bind
    intro right hRight
    apply (yields_binary op hLeft hRight).bind
    intro value hValue
    apply Yields.done
    rintro _ ⟨⟩
    exact hValue
  case and left right _ _ ih ih' =>
    apply ih.bind
    intro left hLeft
    split
    · exact ih'
    · exact .done hLeft
  case or left right _ _ ih ih' =>
    apply ih.bind
    intro left hLeft
    split
    · exact .done hLeft
    · exact ih'
  case conditional condition yes no _ _ _ ih ih' ih'' =>
    apply ih.bind
    intro condition _
    split
    · exact ih'
    · exact ih''

end Expr

variable {σ : Type}

/-- The values of the parameters, and those that their callables return, are reduced. -/
def Binding.IsReduced : Binding σ → Prop
  | .value v => v.IsReduced
  | .callable c => ∀ args state v, (c.body args state).1.outcome = .value v → v.IsReduced

def ParameterSet.IsReduced (params : ParameterSet σ) : Prop :=
  ∀ name binding, params.get? name = some binding → binding.IsReduced

theorem Callable.isReduced_of_call {callable : Callable σ}
    (h : (Binding.callable callable).IsReduced) {args : List Json} {world after : World σ}
    {value : Json} (hCall : callable.call args world = (some (.ok value), after)) :
    value.IsReduced := by
  simp only [call] at hCall
  split at hCall
  · split at hCall
    · rename_i hOutcome
      cases hCall
      exact h args world.state value hOutcome
    · cases hCall
    · cases hCall
  · cases hCall

theorem ParameterSet.IsReduced.answerUntimed {params : ParameterSet σ} (h : params.IsReduced)
    (question : ScopeQuestion) (world : World σ) (reply : question.Answer) (after : World σ)
    (hAnswer : params.answerUntimed question world = (some reply, after)) :
    question.IsReduced reply := by
  cases question with
  | deadline => trivial
  | lookup name =>
    cases hAnswer
    intro value hValue
    obtain ⟨binding, hBinding, hEntry⟩ := Option.map_eq_some_iff.mp hValue
    cases binding with
    | value other =>
      cases hEntry
      exact h name _ hBinding
    | callable _ => cases hEntry
  | invoke name args =>
    rintro value rfl
    rw [ParameterSet.answerUntimed, call] at hAnswer
    split at hAnswer
    · rename_i callable hBinding
      exact Callable.isReduced_of_call (h name _ hBinding) hAnswer
    · cases hAnswer

theorem Expr.IsReduced.of_reaches {expr : Expr} (h : expr.IsReduced) {params : ParameterSet σ}
    (hParams : params.IsReduced) {world after : World σ} {result : Option Json}
    {calls : List Invocation} (hReaches : expr.evaluate.Reaches params world result calls after) :
    ∀ value ∈ result, value.IsReduced :=
  h.evaluate.of_run hParams.answerUntimed hReaches.1

end ParamTree
