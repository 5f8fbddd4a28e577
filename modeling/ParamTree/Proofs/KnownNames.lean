import ParamTree.Parameterizer
import ParamTree.Proofs.EvaluatedParts
import ParamTree.Proofs.Lockstep
import ParamTree.Proofs.TemplateParts

/-!
# Names that are known before they are called

A callable is looked up before its arguments are evaluated, and a filter before its value goes
through it. So expressions and documents call only what they have looked up. Main statements:
`Expr.evaluate_callsKnown` and `Substitution.walk_callsKnown`.
-/

namespace ParamTree

open Plan

def ScopeQuestion.lookedUp? : ScopeQuestion → Option String
  | lookup name => some name
  | invoke _ _ => none
  | deadline => none

def ScopeQuestion.called? : ScopeQuestion → Option String
  | lookup _ => none
  | invoke name _ => some name
  | deadline => none

/-- An expression is evaluated apart: the names of its own evaluation are not among these. -/
def TemplateQuestion.lookedUp? : TemplateQuestion → Option String
  | evaluate _ => none
  | lookup name => some name
  | invoke _ _ => none

def TemplateQuestion.called? : TemplateQuestion → Option String
  | evaluate _ => none
  | lookup _ => none
  | invoke name _ => some name

namespace Evaluation

variable {α : Type} {known : List String}

abbrev CallsKnown (known : List String) (plan : Evaluation α) : Prop :=
  Plan.CallsKnown ScopeQuestion.lookedUp? ScopeQuestion.called? known plan

theorem inTime_callsKnown {plan : Evaluation α} (h : CallsKnown known plan) :
    CallsKnown known (inTime plan) := by
  apply Plan.CallsKnown.of_no_call rfl
  rintro (_ | limit)
  · exact h
  · exact .fail _ _

theorem valueOf_callsKnown (name : String) : CallsKnown known (valueOf name) := by
  apply Plan.CallsKnown.of_no_call rfl
  rintro (_ | _ | _)
  · exact .fail _ _
  · exact .done _ _
  · exact .fail _ _

/-- The arguments are evaluated between the lookup of the callable and its call. -/
theorem callWith_callsKnown (callee : String) {args : Evaluation (List Json)}
    (h : CallsKnown known args) : CallsKnown known (callWith callee args) := by
  apply Plan.CallsKnown.of_no_call rfl
  rintro (_ | _ | arity)
  · exact .fail _ _
  · exact .fail _ _
  · apply (h.mono (List.subset_cons_self callee known)).bind
    intro values
    apply Plan.CallsKnown.of_call rfl List.mem_cons_self
    rintro (message | value)
    · exact .fail _ _
    · exact inTime_callsKnown (.done _ _)

theorem closedUnderEvaluation_callsKnown (known : List String) :
    ClosedUnderEvaluation fun plan => CallsKnown known plan := by
  constructor
  case done => exact fun value => .done _ value
  case fail => exact fun error => .fail _ error
  case bind => exact fun hPlan hNext => hPlan.bind hNext
  case inTime => exact inTime_callsKnown
  case valueOf => exact valueOf_callsKnown
  case callWith => exact callWith_callsKnown

end Evaluation

theorem Expr.evaluate_callsKnown (known : List String) (expr : Expr) :
    Evaluation.CallsKnown known expr.evaluate :=
  evaluate_induction (Evaluation.closedUnderEvaluation_callsKnown known) expr

namespace Template

variable {α : Type}

abbrev CallsKnown (plan : Template α) : Prop :=
  Plan.CallsKnown TemplateQuestion.lookedUp? TemplateQuestion.called? [] plan

theorem evaluate_callsKnown (expression fragment : String) :
    CallsKnown (evaluate expression fragment) := by
  apply Plan.CallsKnown.of_no_call rfl
  rintro (cause | result)
  · exact .fail _ _
  · exact .done _ result

/-- A call that returns its value, or fails with a message. -/
theorem invoke_callsKnown {known : List String} {name : String} (hName : name ∈ known)
    (args : List Json) (message : String → TemplateFault) :
    Plan.CallsKnown TemplateQuestion.lookedUp? TemplateQuestion.called? known (do
      match ← invoke name args with
      | .ok value => return value
      | .error m => fault (message m) : Template Json) := by
  apply Plan.CallsKnown.of_call rfl hName
  rintro (m | value)
  · exact .fail _ _
  · exact .done _ value

theorem orKeep_callsKnown {lenient : Bool} {plan kept : Template α} (h : CallsKnown plan)
    (hKept : CallsKnown kept) : CallsKnown (orKeep lenient plan kept) := by
  rw [orKeep]
  split
  · exact h.recover fun _ => hKept
  · exact h

end Template

namespace Pipeline

theorem start_callsKnown (head fragment : String) : Template.CallsKnown (start head fragment) := by
  rw [start]
  split
  · exact .done _ _
  · apply Plan.CallsKnown.of_no_call rfl
    rintro (_ | _ | _ | arity)
    · exact .fail _ _
    · exact .done _ _
    · exact Template.invoke_callsKnown List.mem_cons_self [] _
    · exact .fail _ _

theorem filter_callsKnown (expression fragment name : String) (value : Json) :
    Template.CallsKnown (filter expression fragment name value) := by
  apply Plan.CallsKnown.of_no_call rfl
  rintro (_ | _ | _ | _ | arity)
  · exact .fail _ _
  · exact .fail _ _
  · exact .fail _ _
  · exact Template.invoke_callsKnown List.mem_cons_self [value] _
  · exact .fail _ _

theorem filters_callsKnown (expression fragment : String) (names : List String) (value : Json) :
    Template.CallsKnown (filters expression fragment names value) := by
  induction names generalizing value with
  | nil => exact .done _ value
  | cons name names ih => exact (filter_callsKnown expression fragment name value).bind ih

theorem run_callsKnown (body fragment : String) : Template.CallsKnown (run body fragment) :=
  (start_callsKnown _ fragment).bind fun value => filters_callsKnown _ fragment _ value

end Pipeline

theorem Template.closedUnderTemplate_callsKnown (config : Config) :
    ClosedUnderTemplate config fun plan => Template.CallsKnown plan where
  done value := .done _ value
  fault _ := .fail _ _
  bind hPlan hNext := hPlan.bind hNext
  under _ _ hPlan := hPlan.mapError _
  orKeep := Template.orKeep_callsKnown
  evaluate := Template.evaluate_callsKnown
  pipeline body fragment _ := Pipeline.run_callsKnown body fragment

theorem Substitution.walk_callsKnown (config : Config) (document : Json) :
    Template.CallsKnown (walk config document) :=
  (Template.closedUnderTemplate_callsKnown config).walk document

end ParamTree
