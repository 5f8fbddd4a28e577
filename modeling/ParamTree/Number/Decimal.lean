import ParamTree.Number.Binary64

/-!
# Decimal numerals

The decimal numerals that stand for binary64 numbers: how a numeral is read, and which numeral is
written for a number. Written is the numeral with the fewest digits that reads back, of those the
nearest, and of two equally near ones the even one.
-/

namespace ParamTree

structure Decimal where
  digits : Nat
  exponent : Int
deriving DecidableEq

namespace Decimal

def length (d : Decimal) : Nat :=
  (Nat.toDigits 10 d.digits).length

/-- How many digits stand before the decimal point; zeros behind it count negatively. -/
def point (d : Decimal) : Int :=
  d.length + d.exponent

/-- The numeral read as the nearest number, or `none` beyond the largest one. Numerals outside
`10 ^ -400` to `10 ^ 400` are decided without their powers. -/
def toBinary64? (d : Decimal) : Option Binary64 :=
  if d.digits = 0 ∨ d.point < -400 then
    some Binary64.zero
  else if 400 < d.point then
    none
  else
    Binary64.nearest? false (d.digits * Nat.pow 10 d.exponent.toNat)
      (Nat.pow 10 (-d.exponent).toNat)

def readsAs (d : Decimal) (x : Binary64) : Bool :=
  d.toBinary64? = some (x.withSign false)

def leadingExponent (magnitude : Nat) : Int :=
  if Binary64.unit ≤ magnitude then
    (Nat.toDigits 10 (magnitude / Binary64.unit)).length - 1
  else
    -(Nat.toDigits 10 ((Binary64.unit - 1) / magnitude)).length

/-- A numeral of `count` digits next to `x` that reads back as `x`. -/
def ofCount? (x : Binary64) (count : Nat) : Option Decimal :=
  let exponent := leadingExponent x.magnitude + 1 - count
  let numerator := x.magnitude * Nat.pow 10 (-exponent).toNat
  let denominator := Binary64.unit * Nat.pow 10 exponent.toNat
  let low : Decimal := ⟨numerator / denominator, exponent⟩
  let high : Decimal := ⟨numerator / denominator + 1, exponent⟩
  let nearest : Decimal := ⟨Binary64.roundQuotient numerator denominator, exponent⟩
  if low.readsAs x && high.readsAs x then some nearest
  else if low.readsAs x then some low
  else if high.readsAs x then some high
  else none

/-- Every digit of a number; all of them are there, for a tenth is a multiple of no smaller unit
than the numbers have. -/
def allDigits (x : Binary64) : Decimal :=
  ⟨x.magnitude * Nat.pow 5 Binary64.unitExponent, -Binary64.unitExponent⟩

def stripZeros (digits : Nat) (exponent : Int) : Decimal :=
  if digits ≠ 0 ∧ digits % 10 = 0 then
    stripZeros (digits / 10) (exponent + 1)
  else
    ⟨digits, exponent⟩
termination_by digits
decreasing_by omega

def shortest (x : Binary64) : Decimal :=
  let d := ((List.range 17).findSome? (fun i => ofCount? x (i + 1))).getD (allDigits x)
  stripZeros d.digits d.exponent

def zeros (count : Int) : List Char :=
  List.replicate count.toNat '0'

def positional (d : Decimal) : List Char :=
  let digits := Nat.toDigits 10 d.digits
  if d.point ≤ 0 then
    ['0', '.'] ++ zeros (-d.point) ++ digits
  else if d.point < d.length then
    digits.take d.point.toNat ++ ['.'] ++ digits.drop d.point.toNat
  else
    digits ++ zeros d.exponent ++ ['.', '0']

/-- One digit before the point and an exponent that always carries its sign. -/
def scientific (d : Decimal) : List Char :=
  let digits := Nat.toDigits 10 d.digits
  let mantissa := if d.length ≤ 1 then digits else digits.take 1 ++ ['.'] ++ digits.drop 1
  let sign := if d.point ≤ 0 then '-' else '+'
  mantissa ++ ['e', sign] ++ Nat.toDigits 10 (d.point - 1).natAbs

/-- Magnitudes from `10 ^ -5` up to `10 ^ 16` are written with all their digits. -/
def chars (d : Decimal) : List Char :=
  if -4 ≤ d.point ∧ d.point ≤ 16 then d.positional else d.scientific

end Decimal

def Binary64.chars (x : Binary64) : List Char :=
  let digits := if x.isZero then ['0', '.', '0'] else (Decimal.shortest x).chars
  if x.negative then '-' :: digits else digits

end ParamTree
