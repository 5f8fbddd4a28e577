import ParamTree.Json.Basic
import ParamTree.Value.Fault

/-!
# Expressions

The tree of a parsed expression.
-/

namespace ParamTree

inductive UnaryOp where
  | not
  | neg
  | plus
deriving DecidableEq

inductive Relation where
  | lt
  | le
  | gt
  | ge
deriving DecidableEq

def Relation.holds : Relation → Ordering → Bool
  | lt, order => order = .lt
  | le, order => order ≠ .gt
  | gt, order => order = .gt
  | ge, order => order ≠ .lt

inductive BinaryOp where
  | arith (op : Arithmetic)
  | order (relation : Relation)
  | eq
  | notEq
deriving DecidableEq

inductive Expr where
  | literal (value : Json)
  | array (items : List Expr)
  | object (entries : List (String × Expr))
  | name (id : String)
  | call (callee : String) (args : List Expr)
  | member (target : Expr) (property : String)
  | index (target position : Expr)
  | unary (op : UnaryOp) (operand : Expr)
  | binary (op : BinaryOp) (left right : Expr)
  | and (left right : Expr)
  | or (left right : Expr)
  | conditional (condition yes no : Expr)

end ParamTree
