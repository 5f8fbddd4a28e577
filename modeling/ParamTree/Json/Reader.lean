import ParamTree.Json.Basic
import ParamTree.Json.Source

/-!
# Values from text

The value of a spelled JSON text. A key that occurs again keeps its first place and takes the last
value; surrogate units stand in pairs; arrays and objects nest at most 127 levels deep.

A numeral without fraction and exponent is an integer where 64 bits hold it. Any other is a float,
and its last digit need not be the nearest one: the significand is the longest run of digits that 64
bits hold, rounded, and it is multiplied or divided by a rounded power of ten.
-/

namespace ParamTree

def isHighSurrogate (code : Nat) : Bool :=
  0xd800 ≤ code && code < 0xdc00

def isLowSurrogate (code : Nat) : Bool :=
  0xdc00 ≤ code && code < 0xe000

/-- The characters of a string, or `none` where a surrogate lacks its partner. -/
def StringUnit.decode? : List StringUnit → Option (List Char)
  | [] => some []
  | .char c :: rest => (decode? rest).map (c :: ·)
  | .unit high :: .unit low :: rest =>
    if isHighSurrogate high then
      if isLowSurrogate low then
        let code := 0x10000 + (high - 0xd800) * 0x400 + (low - 0xdc00)
        (decode? rest).map (Char.ofNat code :: ·)
      else
        none
    else if isLowSurrogate high then
      none
    else
      (decode? (.unit low :: rest)).map (Char.ofNat high :: ·)
  | .unit code :: rest =>
    if isHighSurrogate code || isLowSurrogate code then
      none
    else
      (decode? rest).map (Char.ofNat code :: ·)

def StringUnit.text? (units : List StringUnit) : Option String :=
  (decode? units).map String.ofList

namespace Numeral

/-- Continues a significand with digits as long as 64 bits hold it, and counts those it took. -/
def absorb (significand : Nat) : List Char → Nat × Nat
  | [] => (significand, 0)
  | c :: rest =>
    let next := significand * 10 + (c.toNat - '0'.toNat)
    if next < UInt64.size then
      let (result, count) := absorb next rest
      (result, count + 1)
    else
      (significand, 0)

def powerOfTen? (exponent : Nat) : Option Binary64 :=
  Binary64.nearest? false (Nat.pow 10 exponent) 1

/-- A significand times a power of ten, each step rounded; `none` beyond the largest number. A
division by more than `10 ^ 308` takes two steps, and a third one would always end at zero. -/
def scaleByTen? (significand : Nat) (exponent : Int) : Option Binary64 := do
  let x ← Binary64.nearest? false significand 1
  if significand = 0 then
    return x
  else if 308 < exponent then
    none
  else if 0 ≤ exponent then
    x.mul? (← powerOfTen? exponent.toNat)
  else if -308 ≤ exponent then
    x.div? (← powerOfTen? (-exponent).toNat)
  else if -616 ≤ exponent then
    let reduced ← x.div? (← powerOfTen? 308)
    reduced.div? (← powerOfTen? (-exponent - 308).toNat)
  else
    return .zero

def toNumber? (numeral : Numeral) : Option Number :=
  let (whole, wholeCount) := absorb 0 numeral.whole
  let (significand, fractionCount) := absorb whole numeral.fraction
  let dropped := numeral.whole.length - wholeCount
  let exponent : Int := dropped - fractionCount + numeral.exponent.getD 0
  let isInteger := numeral.fraction.isEmpty && numeral.exponent.isNone && dropped = 0
  let value : Int := if numeral.negative then -(significand : Int) else significand
  let asInteger :=
    if isInteger && !(numeral.negative && significand = 0) then Number.ofInt? value else none
  match asInteger with
  | some n => some n
  | none => (scaleByTen? significand exponent).map (fun x => .float (x.withSign numeral.negative))

end Numeral

namespace Source

mutual

def toJson? (depth : Nat) : Source → Option Json
  | .null => some .null
  | .bool value => some (.bool value)
  | .number numeral => numeral.toNumber?.map .number
  | .string units => (StringUnit.text? units).map .string
  | .array items =>
    if depth = 0 then none else (toItems? (depth - 1) items).map .array
  | .object fields =>
    if depth = 0 then none else (toFields? (depth - 1) fields).map (.object <| Entries.ofList ·)

def toItems? (depth : Nat) : List Source → Option (List Json)
  | [] => some []
  | item :: items =>
    match toJson? depth item, toItems? depth items with
    | some value, some values => some (value :: values)
    | _, _ => none

def toFields? (depth : Nat) : List (List StringUnit × Source) → Option (List (String × Json))
  | [] => some []
  | (key, item) :: fields =>
    match StringUnit.text? key, toJson? depth item, toFields? depth fields with
    | some name, some value, some entries => some ((name, value) :: entries)
    | _, _, _ => none

end

end Source

def Json.maxDepth : Nat := 127

def Json.ofText? (text : String) : Option Json :=
  (Source.ofText? text).bind (Source.toJson? Json.maxDepth)

end ParamTree
