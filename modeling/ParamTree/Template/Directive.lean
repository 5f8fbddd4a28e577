import ParamTree.Entries

/-!
# Directives

An object with a reserved key is a directive: a conditional, a selection among cases, or an
expression. Of several reserved keys, `$if` comes first and `$eval` last.
-/

namespace ParamTree

def ifKey : String := "$if"

def thenKey : String := "then"

def elseKey : String := "else"

def switchKey : String := "$switch"

def evalKey : String := "$eval"

/-- What an object stands for, with fields of any type. -/
inductive Directive (α : Type) where
  | conditional (condition : α) (yes no : Option α)
  | selection (selector : α) (cases : Entries α)
  | evaluation (expression : α)
  | plain

namespace Directive

variable {α : Type}

def classify (fields : Entries α) : Directive α :=
  match Entries.get? fields ifKey, Entries.get? fields switchKey, Entries.get? fields evalKey with
  | some condition, _, _ =>
    .conditional condition (Entries.get? fields thenKey) (Entries.get? fields elseKey)
  | none, some selector, _ => .selection selector fields
  | none, none, some expression => .evaluation expression
  | none, none, none => .plain

def key? : Directive α → Option String
  | conditional _ _ _ => some ifKey
  | selection _ _ => some switchKey
  | evaluation _ => some evalKey
  | plain => none

end Directive

end ParamTree
