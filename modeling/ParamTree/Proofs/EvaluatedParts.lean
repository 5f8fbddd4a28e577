import ParamTree.Expr.Evaluation

/-!
# Evaluated parts of expressions

The plan that evaluates an expression is put together from those of its parts by few means. Main
statement: `Expr.evaluate_induction`, by which what these means preserve holds of every expression.
-/

namespace ParamTree

open Evaluation

theorem Evaluation.inTime_bind {α β : Type} (plan : Evaluation α) (f : α → Evaluation β) :
    (inTime plan >>= f) = inTime (plan >>= f) := by
  apply congrArg (@Plan.ask scope EvalError β ScopeQuestion.deadline)
  funext reply
  cases reply <;> rfl

/-- What holds of the plans that ask nothing, and of sequences of plans of which it holds. -/
structure ClosedUnderBind (P : {α : Type} → Evaluation α → Prop) : Prop where
  done {α : Type} (value : α) : P (.done value : Evaluation α)
  fail {α : Type} (error : EvalError) : P (.fail error : Evaluation α)
  bind {α β : Type} {plan : Evaluation α} {f : α → Evaluation β} :
    P plan → (∀ value, P (f value)) → P (plan >>= f)

namespace ClosedUnderBind

variable {P : {α : Type} → Evaluation α → Prop} (h : ClosedUnderBind P)
include h

theorem ofFaulty {α : Type} (result : Except Fault α) : P (ofFaulty result) := by
  cases result with
  | ok value => exact h.done value
  | error f => exact h.fail _

theorem require (place : Place) (result : Option Json) : P (require place result) := by
  cases result with
  | some value => exact h.done value
  | none => exact h.fail _

theorem withOperands (left right : Option Json) (f : Json → Json → Except Fault Json) :
    P (withOperands left right f) :=
  h.bind (h.require _ left) fun _ => h.bind (h.require _ right) fun _ => h.ofFaulty _

theorem binary (op : BinaryOp) (left right : Option Json) : P (op.evaluate left right) := by
  cases op with
  | eq | notEq => exact h.done _
  | arith op => exact h.withOperands left right _
  | order relation => exact h.withOperands left right _

theorem unary (op : UnaryOp) (operand : Option Json) : P (op.evaluate operand) := by
  cases op with
  | not => exact h.done _
  | neg | plus => exact h.bind (h.require _ operand) fun _ => h.ofFaulty _

end ClosedUnderBind

/-- What holds of the plans that ask nothing, and of those put together from plans of which it
holds. Only names and calls look something up. -/
structure ClosedUnderEvaluation (P : {α : Type} → Evaluation α → Prop) : Prop where
  done {α : Type} (value : α) : P (.done value : Evaluation α)
  fail {α : Type} (error : EvalError) : P (.fail error : Evaluation α)
  bind {α β : Type} {plan : Evaluation α} {f : α → Evaluation β} :
    P plan → (∀ value, P (f value)) → P (plan >>= f)
  inTime {α : Type} {plan : Evaluation α} : P plan → P (inTime plan)
  valueOf (name : String) : P (valueOf name)
  callWith (callee : String) {args : Evaluation (List Json)} : P args → P (callWith callee args)

theorem ClosedUnderEvaluation.closedUnderBind {P : {α : Type} → Evaluation α → Prop}
    (h : ClosedUnderEvaluation P) : ClosedUnderBind P where
  done := h.done
  fail := h.fail
  bind := h.bind

namespace Expr

mutual

theorem evaluate_induction {P : {α : Type} → Evaluation α → Prop} (h : ClosedUnderEvaluation P)
    (expr : Expr) : P expr.evaluate := by
  cases expr
  all_goals
    rw [evaluate]
    apply h.inTime
  case literal value =>
    exact h.done _
  case array items =>
    exact h.bind (evaluateAll_induction h _ 1 items) fun _ => h.done _
  case object entries =>
    exact h.bind (evaluateEntries_induction h entries) fun _ => h.done _
  case name id =>
    exact h.valueOf id
  case call callee args =>
    exact h.callWith callee (evaluateAll_induction h _ 1 args)
  case member target property =>
    exact h.bind (evaluate_induction h target) fun _ => h.closedUnderBind.ofFaulty _
  case index target position =>
    apply h.bind (evaluate_induction h target)
    intro target
    apply h.bind (evaluate_induction h position)
    intro index
    exact h.bind (h.closedUnderBind.require _ index) fun _ => h.closedUnderBind.ofFaulty _
  case unary op operand =>
    apply h.bind (evaluate_induction h operand)
    intro operand
    exact h.bind (h.closedUnderBind.unary op operand) fun _ => h.done _
  case binary op left right =>
    apply h.bind (evaluate_induction h left)
    intro left
    apply h.bind (evaluate_induction h right)
    intro right
    exact h.bind (h.closedUnderBind.binary op left right) fun _ => h.done _
  case and left right =>
    apply h.bind (evaluate_induction h left)
    intro left
    split
    · exact evaluate_induction h right
    · exact h.done _
  case or left right =>
    apply h.bind (evaluate_induction h left)
    intro left
    split
    · exact h.done _
    · exact evaluate_induction h right
  case conditional condition yes no =>
    apply h.bind (evaluate_induction h condition)
    intro condition
    split
    · exact evaluate_induction h yes
    · exact evaluate_induction h no

theorem evaluateAll_induction {P : {α : Type} → Evaluation α → Prop}
    (h : ClosedUnderEvaluation P) (place : Nat → Place) (position : Nat) (items : List Expr) :
    P (evaluateAll place position items) := by
  cases items with
  | nil => exact h.done []
  | cons item items =>
    rw [evaluateAll]
    apply h.bind (evaluate_induction h item)
    intro result
    apply h.bind (h.closedUnderBind.require _ result)
    intro value
    exact h.bind (evaluateAll_induction h place (position + 1) items) fun _ => h.done _

theorem evaluateEntries_induction {P : {α : Type} → Evaluation α → Prop}
    (h : ClosedUnderEvaluation P) (entries : List (String × Expr)) :
    P (evaluateEntries entries) := by
  cases entries with
  | nil => exact h.done []
  | cons entry entries =>
    obtain ⟨key, item⟩ := entry
    rw [evaluateEntries]
    apply h.bind (evaluate_induction h item)
    intro result
    apply h.bind (evaluateEntries_induction h entries)
    intro fields
    cases result <;> exact h.done _

end

end Expr

end ParamTree
