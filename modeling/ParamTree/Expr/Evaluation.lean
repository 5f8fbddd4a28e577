import ParamTree.Expr.Basic
import ParamTree.Parameter.Basic
import ParamTree.Value.Arithmetic
import ParamTree.Value.Comparison

/-!
# Evaluation of expressions

What an expression asks of the parameters and which result it has. A result may be absent: a missing
property or element is not an error. The time limit is looked at before every part of the expression
and after every call; parts are evaluated from left to right, and only those that count. An
evaluation fails because the text is no expression, a name has no binding, the evaluation itself
went wrong, or its time ran out.
-/

namespace ParamTree

inductive EvalError where
  | malformed (detail : String) (offset : Nat)
  | undefinedName (name : String)
  | runtime (detail : String)
  | timeout (limit : Duration)
deriving DecidableEq

def EvalError.message : EvalError → String
  | malformed detail offset => s!"syntax error at offset {offset}: {detail}"
  | undefinedName name => s!"undefined name `{name}`"
  | runtime detail => detail
  | timeout limit => s!"timed out after {limit.milliseconds}ms"

def EvalError.ofFault (fault : Fault) : EvalError :=
  .runtime fault.message

inductive ScopeQuestion where
  /-- What is the name bound to? -/
  | lookup (name : String)
  /-- What does the callable of this name return? -/
  | invoke (name : String) (args : List Json)
  /-- Which time limit has run out? -/
  | deadline

def ScopeQuestion.Answer : ScopeQuestion → Type
  | lookup _ => Option Entry
  | invoke _ _ => Except String Json
  | deadline => Option Duration

abbrev scope : Interface :=
  ⟨ScopeQuestion, ScopeQuestion.Answer⟩

abbrev Evaluation (α : Type) : Type := Plan scope EvalError α

namespace Evaluation

def lookup (name : String) : Evaluation (Option Entry) :=
  .ask (ScopeQuestion.lookup name) .done

def invoke (name : String) (args : List Json) : Evaluation (Except String Json) :=
  .ask (ScopeQuestion.invoke name args) .done

def fault {α : Type} (f : Fault) : Evaluation α :=
  .fail (.ofFault f)

def ofFaulty {α : Type} : Except Fault α → Evaluation α
  | .ok value => .done value
  | .error f => fault f

def inTime {α : Type} (plan : Evaluation α) : Evaluation α :=
  .ask ScopeQuestion.deadline fun
    | some limit => .fail (.timeout limit)
    | none => plan

def require (place : Place) : Option Json → Evaluation Json
  | some value => .done value
  | none => fault (.undefined place)

end Evaluation

open Evaluation

/-- The property of a value, absent where a value has none of that name. -/
def Json.member (property : String) : Option Json → Except Fault (Option Json)
  | some (.object fields) => .ok (Entries.get? fields property)
  | some (.array items) =>
    .ok (if property = "length" then some (.ofNat items.length) else none)
  | some (.string text) => .ok (if property = "length" then some (.ofNat text.length) else none)
  | some .null => .error (.cannotRead property (some .null))
  | none => .error (.cannotRead property none)
  | some _ => .ok none

def Json.select (index : Json) : Option Json → Except Fault (Option Json)
  | none => .error (.cannotIndex none index)
  | some target =>
    match target, index with
    | .array items, .number n => .ok (n.unsigned?.bind (fun i => items[i]?))
    | _, .string key => Json.member key (some target)
    | .null, _ => .error (.cannotIndex (some .null) index)
    | _, _ => .ok none

def withOperands (left right : Option Json) (f : Json → Json → Except Fault Json) :
    Evaluation Json := do
  let left ← require .leftOperand left
  let right ← require .rightOperand right
  ofFaulty (f left right)

/-- The operation on two results. Only equality takes absent ones. -/
def BinaryOp.evaluate (op : BinaryOp) (left right : Option Json) : Evaluation Json :=
  match op with
  | .eq => .done (.bool (looseEquals left right))
  | .notEq => .done (.bool !(looseEquals left right))
  | .arith op => withOperands left right (Json.arithmetic op)
  | .order relation =>
    withOperands left right fun left right =>
      (left.compareValue right).map (fun order => .bool (relation.holds order))

def UnaryOp.evaluate (op : UnaryOp) (operand : Option Json) : Evaluation Json :=
  match op with
  | .not => .done (.bool !(truthy operand))
  | .neg => do
    let value ← require (.operandOf "-") operand
    ofFaulty value.negate
  | .plus => do
    let value ← require (.operandOf "+") operand
    ofFaulty value.unaryPlus

namespace Evaluation

def valueOf (name : String) : Evaluation (Option Json) := do
  match ← lookup name with
  | some (.value value) => return some value
  | some (.function _) => fault (.isFunction name)
  | none => .fail (.undefinedName name)

def callWith (callee : String) (args : Evaluation (List Json)) : Evaluation (Option Json) := do
  match ← lookup callee with
  | some (.function _) => do
    let values ← args
    match ← invoke callee values with
    | .ok value => inTime (.done (some value))
    | .error message => fault (.callFailed callee message)
  | some (.value _) => fault (.isNotFunction callee)
  | none => .fail (.undefinedName callee)

end Evaluation

namespace Expr

mutual

def evaluate : Expr → Evaluation (Option Json)
  | .literal value => inTime (.done (some value))
  | .array items => inTime do
    let values ← evaluateAll (fun _ => .arrayItem) 1 items
    return some (.array values)
  | .object entries => inTime do
    let fields ← evaluateEntries entries
    return some (.object (Entries.ofList fields))
  | .name id => inTime (valueOf id)
  | .call callee args =>
    inTime (callWith callee (evaluateAll (fun i => .argument i callee) 1 args))
  | .member target property => inTime do
    let target ← evaluate target
    ofFaulty (Json.member property target)
  | .index target position => inTime do
    let target ← evaluate target
    let index ← evaluate position
    let index ← require .index index
    ofFaulty (Json.select index target)
  | .unary op operand => inTime do
    let operand ← evaluate operand
    let value ← op.evaluate operand
    return some value
  | .binary op left right => inTime do
    let left ← evaluate left
    let right ← evaluate right
    let value ← op.evaluate left right
    return some value
  | .and left right => inTime do
    let left ← evaluate left
    if truthy left then evaluate right else return left
  | .or left right => inTime do
    let left ← evaluate left
    if truthy left then return left else evaluate right
  | .conditional condition yes no => inTime do
    let condition ← evaluate condition
    if truthy condition then evaluate yes else evaluate no

/-- The values of parts that all have to have one; `place` names a part by its position. -/
def evaluateAll (place : Nat → Place) (position : Nat) : List Expr → Evaluation (List Json)
  | [] => return []
  | item :: items => do
    let result ← evaluate item
    let value ← require (place position) result
    let values ← evaluateAll place (position + 1) items
    return value :: values

def evaluateEntries : List (String × Expr) → Evaluation (List (String × Json))
  | [] => return []
  | (key, item) :: entries => do
    let result ← evaluate item
    let fields ← evaluateEntries entries
    match result with
    | some value => return (key, value) :: fields
    | none => return fields

end

end Expr

end ParamTree
