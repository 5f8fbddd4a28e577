import ParamTree.Json.Printer

/-!
# Faults

What can go wrong while an expression that parses is evaluated, and how each fault is worded.
-/

namespace ParamTree

inductive Arithmetic where
  | add
  | sub
  | mul
  | div
  | rem
deriving DecidableEq

def Arithmetic.symbol : Arithmetic → String
  | add => "+"
  | sub => "-"
  | mul => "*"
  | div => "/"
  | rem => "%"

inductive Place where
  | arrayItem
  | index
  | argument (position : Nat) (callee : String)
  | operandOf (symbol : String)
  | leftOperand
  | rightOperand
deriving DecidableEq

def Place.text : Place → String
  | arrayItem => "array item"
  | index => "index"
  | argument position callee => s!"argument {position} of `{callee}`"
  | operandOf symbol => s!"operand of `{symbol}`"
  | leftOperand => "left operand"
  | rightOperand => "right operand"

/-- The kind of a result, which is undefined when it is absent. -/
def kindName : Option Json.Kind → String
  | none => "undefined"
  | some kind => kind.name

inductive Fault where
  | divisionByZero
  | notFinite
  | cannotApply (op : Arithmetic) (left right : Json.Kind)
  | cannotNegate (kind : Json.Kind)
  | notANumber (kind : Json.Kind)
  | cannotCompare (left right : Json.Kind)
  | undefined (place : Place)
  | isFunction (name : String)
  | isNotFunction (name : String)
  | callFailed (name message : String)
  | cannotIndex (target : Option Json.Kind) (index : Json)
  | cannotRead (property : String) (target : Option Json.Kind)
deriving DecidableEq

def Fault.message : Fault → String
  | divisionByZero => "division by zero"
  | notFinite => "arithmetic produced a non-finite number"
  | cannotApply op left right => s!"cannot apply `{op.symbol}` to {left.name} and {right.name}"
  | cannotNegate kind => s!"cannot negate {kind.name}"
  | notANumber kind => s!"unary `+` expects a number, got {kind.name}"
  | cannotCompare left right => s!"cannot compare {left.name} with {right.name}"
  | undefined place => s!"{place.text} is undefined"
  | isFunction name => s!"`{name}` is a function, call it as `{name}(...)`"
  | isNotFunction name => s!"`{name}` is not a function"
  | callFailed name message => s!"`{name}` failed: {message}"
  | cannotIndex target index => s!"cannot index {kindName target} with {index.compact}"
  | cannotRead property target => s!"cannot read property `{property}` of {kindName target}"

end ParamTree
