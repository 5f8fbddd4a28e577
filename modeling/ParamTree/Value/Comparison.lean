import ParamTree.Value.Fault

/-!
# Comparison of values

Numbers are ordered by value, strings by their code points, and nothing else is ordered. Two
integers that fit in 64 bits with a sign are compared as they are, any other pair of numbers as
binary64. Equality looks at numbers by value and at objects regardless of the order of keys.
-/

namespace ParamTree

def Number.compareValue (a b : Number) : Ordering :=
  match a.signed?, b.signed? with
  | some x, some y => compare x y
  | _, _ => a.toBinary64.compareValue b.toBinary64

namespace Json

def compareValue : Json → Json → Except Fault Ordering
  | .string a, .string b => .ok (compare a b)
  | .number a, .number b => .ok (a.compareValue b)
  | left, right => .error (.cannotCompare left.kind right.kind)

mutual

def equals : Json → Json → Bool
  | .number a, .number b => a.compareValue b = .eq
  | .array xs, .array ys => equalItems xs ys
  | .object xs, .object ys => xs.length = ys.length && equalFields xs ys
  | v, w => v = w

def equalItems : List Json → List Json → Bool
  | [], [] => true
  | x :: xs, y :: ys => equals x y && equalItems xs ys
  | _, _ => false

/-- Every field on the left has an equal one on the right. -/
def equalFields : List (String × Json) → List (String × Json) → Bool
  | [], _ => true
  | (key, x) :: xs, ys =>
    (match Entries.get? ys key with
      | some y => equals x y
      | none => false) && equalFields xs ys

end

end Json

/-- Equality of results, of which an absent one equals absent ones only. -/
def looseEquals : Option Json → Option Json → Bool
  | none, none => true
  | some a, some b => a.equals b
  | _, _ => false

end ParamTree
