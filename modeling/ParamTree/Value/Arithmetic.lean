import ParamTree.Value.Fault

/-!
# Truth, text and arithmetic of values

Which values count as true, and the text by which a scalar enters a string: a float that is integral
and below `2 ^ 53` has the text of that integer.

Integers that 64 bits with a sign hold are added, subtracted and multiplied exactly, and divided
exactly where the division leaves no remainder; the remainder of two of them is exact where their
quotient is one of them. Whatever does not stay among them is computed in binary64. The sign `+` also
joins texts.
-/

namespace ParamTree

/-- Absent values, `null`, `false`, zeros and the empty string count as false. -/
def truthy : Option Json → Bool
  | none => false
  | some .null => false
  | some (.bool value) => value
  | some (.number n) => !n.isZero
  | some (.string text) => text != ""
  | some (.array _) => true
  | some (.object _) => true

namespace Json

def scalarText? : Json → Option String
  | .null => some "null"
  | .bool true => some "true"
  | .bool false => some "false"
  | .number (.float x) => some (Number.ofBinary64 x).text
  | .number n => some n.text
  | .string text => some text
  | .array _ => none
  | .object _ => none

/-- Arrays and objects enter a concatenation by their compact text. -/
def concatText (value : Json) : String :=
  value.scalarText?.getD value.compact

end Json

namespace Number

def signedResult? (op : Arithmetic) (x y : Int) : Option Number :=
  match op with
  | .add => ofSigned? (x + y)
  | .sub => ofSigned? (x - y)
  | .mul => ofSigned? (x * y)
  | .div => if x.tmod y = 0 then ofSigned? (x.tdiv y) else none
  | .rem => (ofSigned? (x.tdiv y)).bind fun _ => ofSigned? (x.tmod y)

def rounded? (op : Arithmetic) (x y : Binary64) : Option Binary64 :=
  match op with
  | .add => x.add? y
  | .sub => x.sub? y
  | .mul => x.mul? y
  | .div => x.div? y
  | .rem => x.rem? y

def exactResult? (op : Arithmetic) (a b : Number) : Option Number :=
  match a.signed?, b.signed? with
  | some x, some y => signedResult? op x y
  | _, _ => none

def arithmetic (op : Arithmetic) (a b : Number) : Except Fault Number :=
  if (op = .div ∨ op = .rem) ∧ b.isZero then
    .error .divisionByZero
  else
    match exactResult? op a b with
    | some n => .ok n
    | none =>
      match rounded? op a.toBinary64 b.toBinary64 with
      | some x => .ok (ofBinary64 x)
      | none => .error .notFinite

def negate (n : Number) : Number :=
  match n.signed?.bind (fun value => ofSigned? (-value)) with
  | some m => m
  | none => ofBinary64 n.toBinary64.neg

end Number

namespace Json

def arithmetic (op : Arithmetic) (left right : Json) : Except Fault Json :=
  if op = .add ∧ (left.kind = .string ∨ right.kind = .string) then
    .ok (.string (left.concatText ++ right.concatText))
  else
    match left, right with
    | .number a, .number b => (Number.arithmetic op a b).map .number
    | _, _ => .error (.cannotApply op left.kind right.kind)

def negate : Json → Except Fault Json
  | .number n => .ok (.number n.negate)
  | value => .error (.cannotNegate value.kind)

def unaryPlus : Json → Except Fault Json
  | .number n => .ok (.number n)
  | value => .error (.notANumber value.kind)

end Json

end ParamTree
