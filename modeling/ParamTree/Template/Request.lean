import ParamTree.Evaluator
import ParamTree.Template.Error

/-!
# Requests of a document

What a document asks for while it is resolved: the results of expressions from the evaluator, and
names and calls from the parameters.
-/

namespace ParamTree

inductive TemplateQuestion where
  /-- What is the result of the expression? -/
  | evaluate (expression : String)
  /-- What is the name bound to? -/
  | lookup (name : String)
  /-- What does the callable of this name return? -/
  | invoke (name : String) (args : List Json)

def TemplateQuestion.Answer : TemplateQuestion → Type
  | evaluate _ => Except EvalError (Option Json)
  | lookup _ => Option Entry
  | invoke _ _ => Except String Json

abbrev template : Interface :=
  ⟨TemplateQuestion, TemplateQuestion.Answer⟩

abbrev Template (α : Type) : Type := Plan template TemplateError α

namespace Template

def lookup (name : String) : Template (Option Entry) :=
  .ask (TemplateQuestion.lookup name) .done

def invoke (name : String) (args : List Json) : Template (Except String Json) :=
  .ask (TemplateQuestion.invoke name args) .done

def fault {α : Type} (f : TemplateFault) : Template α :=
  .fail (.ofFault f)

def evaluate (expression fragment : String) : Template (Option Json) :=
  .ask (TemplateQuestion.evaluate expression) fun
    | .ok result => .done result
    | .error cause => fault (.ofEvaluation expression fragment cause)

def under {α : Type} (segment : PathSegment) (plan : Template α) : Template α :=
  plan.mapError (TemplateError.under segment)

/-- A part in whose place something else may stand if it fails. -/
def orKeep {α : Type} (lenient : Bool) (plan kept : Template α) : Template α :=
  if lenient then plan.recover (fun _ => kept) else plan

end Template

variable {σ : Type}

def ParameterSet.answerTemplate (params : ParameterSet σ) (evaluator : Evaluator σ)
    (limit : Duration) : (question : TemplateQuestion) → Act σ question.Answer
  | .evaluate expression, world => evaluator expression params limit world
  | .lookup name, world => (some (params.entry? name), world)
  | .invoke name args, world => params.call name args world

end ParamTree
