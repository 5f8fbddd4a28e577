import ParamTree.Number.Decimal

/-!
# Numbers

A number is an integer of at most 64 bits, signed or unsigned, or a finite binary64 number. The two
kinds stay apart: `1` and `1.0` are different numbers of equal value.
-/

namespace ParamTree

inductive Number where
  | integer (value : Int) (range : -0x8000000000000000 ≤ value ∧ value < 0x10000000000000000)
  | float (value : Binary64)
deriving DecidableEq

namespace Number

def ofInt? (value : Int) : Option Number :=
  if h : -0x8000000000000000 ≤ value ∧ value < 0x10000000000000000 then
    some (.integer value h)
  else
    none

def ofSigned? (value : Int) : Option Number :=
  if value < 0x8000000000000000 then ofInt? value else none

/-- Counts beyond the largest integer stop there. -/
def ofNat (count : Nat) : Number :=
  .integer (min count 0xffffffffffffffff : Nat) (by omega)

def signed? : Number → Option Int
  | .integer value _ => if value < 0x8000000000000000 then some value else none
  | .float _ => none

def unsigned? : Number → Option Nat
  | .integer value _ => if 0 ≤ value then some value.toNat else none
  | .float _ => none

def toBinary64 : Number → Binary64
  | .integer value range =>
    (Binary64.ofInt? value).get (Binary64.ofInt?_isSome (by omega))
  | .float value => value

def toRat : Number → Rat
  | .integer value _ => value
  | .float value => value.toRat

/-- A float as a number: integral ones below `2 ^ 53` become integers. -/
def ofBinary64 (x : Binary64) : Number :=
  if x.isIntegral ∧ x.truncate.natAbs < 0x20000000000000 then
    (ofInt? x.truncate).getD (.float x)
  else
    .float x

def isZero : Number → Bool
  | .integer value _ => value = 0
  | .float value => value.isZero

def intChars (value : Int) : List Char :=
  if value < 0 then '-' :: Nat.toDigits 10 value.natAbs else Nat.toDigits 10 value.natAbs

def chars : Number → List Char
  | .integer value _ => intChars value
  | .float value => value.chars

def text (n : Number) : String :=
  String.ofList n.chars

@[simp] theorem toList_text (n : Number) : n.text.toList = n.chars := by
  simp [text]

end Number

end ParamTree
