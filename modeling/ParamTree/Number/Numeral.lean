import ParamTree.Number

/-!
# Numerals in expressions

The extent of an unsigned numeral and its value. A fraction needs a digit behind its point, an
exponent a digit behind its letter and sign; what lacks one does not belong to the numeral.
-/

namespace ParamTree

def digitSpan (text : List Char) : List Char × List Char :=
  (text.takeWhile Char.isDigit, text.dropWhile Char.isDigit)

def startsWithDigit : List Char → Bool
  | [] => false
  | c :: _ => c.isDigit

def signSpan : List Char → List Char × List Char
  | [] => ([], [])
  | c :: rest => if c = '+' ∨ c = '-' then ([c], rest) else ([], c :: rest)

def fractionSpan : List Char → List Char × List Char
  | [] => ([], [])
  | c :: rest =>
    if c = '.' ∧ startsWithDigit rest then
      ('.' :: (digitSpan rest).1, (digitSpan rest).2)
    else
      ([], c :: rest)

def exponentSpan : List Char → List Char × List Char
  | [] => ([], [])
  | c :: rest =>
    if (c = 'e' ∨ c = 'E') ∧ startsWithDigit (signSpan rest).2 then
      (c :: (signSpan rest).1 ++ (digitSpan (signSpan rest).2).1, (digitSpan (signSpan rest).2).2)
    else
      ([], c :: rest)

/-- The numeral at the front of a text, all of it optional, and what follows. -/
def numeralSpan (text : List Char) : List Char × List Char :=
  let whole := digitSpan text
  let fraction := fractionSpan whole.2
  let exponent := exponentSpan fraction.2
  (whole.1 ++ fraction.1 ++ exponent.1, exponent.2)

/-- The decimal that a text writes: digits with at most one point among them, and an exponent. -/
def Decimal.ofChars? (text : List Char) : Option Decimal :=
  let (whole, rest) := digitSpan text
  let (fraction, rest) := match rest with
    | '.' :: rest => digitSpan rest
    | rest => ([], rest)
  let digits := Nat.ofDigitChars 10 (whole ++ fraction) 0
  if whole.isEmpty && fraction.isEmpty then
    none
  else
    match rest with
    | [] => some ⟨digits, -(fraction.length : Int)⟩
    | c :: rest =>
      let (sign, rest) := signSpan rest
      let (exponent, rest) := digitSpan rest
      if (c = 'e' ∨ c = 'E') ∧ exponent ≠ [] ∧ rest = [] then
        let value : Int := Nat.ofDigitChars 10 exponent 0
        some ⟨digits, (if sign = ['-'] then -value else value) - fraction.length⟩
      else
        none

/-- The number of a numeral: an integer where 63 bits hold it, and otherwise the nearest float. -/
def Number.ofNumeral? (text : List Char) : Option Number :=
  let asInteger := if text.all Char.isDigit then ofSigned? (Nat.ofDigitChars 10 text 0) else none
  match asInteger with
  | some n => some n
  | none => ((Decimal.ofChars? text).bind Decimal.toBinary64?).map ofBinary64

theorem digitSpan_append (text : List Char) : (digitSpan text).1 ++ (digitSpan text).2 = text :=
  List.takeWhile_append_dropWhile

theorem signSpan_append (text : List Char) : (signSpan text).1 ++ (signSpan text).2 = text := by
  cases text with
  | nil => rfl
  | cons c rest =>
    simp only [signSpan]
    split <;> rfl

theorem fractionSpan_append (text : List Char) :
    (fractionSpan text).1 ++ (fractionSpan text).2 = text := by
  cases text with
  | nil => rfl
  | cons c rest =>
    simp only [fractionSpan]
    split
    · rename_i h
      rw [h.1, List.cons_append, digitSpan_append]
    · rfl

theorem exponentSpan_append (text : List Char) :
    (exponentSpan text).1 ++ (exponentSpan text).2 = text := by
  cases text with
  | nil => rfl
  | cons c rest =>
    simp only [exponentSpan]
    split
    · rw [List.append_assoc, digitSpan_append, List.cons_append, signSpan_append]
    · rfl

theorem numeralSpan_append (text : List Char) :
    (numeralSpan text).1 ++ (numeralSpan text).2 = text := by
  simp only [numeralSpan, List.append_assoc, exponentSpan_append, fractionSpan_append,
    digitSpan_append]

end ParamTree
