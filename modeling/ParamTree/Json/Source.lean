import ParamTree.Text.Basic

/-!
# Spelled values

A JSON text read as it is spelled: repeated keys stay, numerals keep their digits, and strings keep
the 16-bit units of their escapes. Any depth of nesting and any size of numeral has a spelling;
which spellings have a value is decided elsewhere.
-/

namespace ParamTree

/-- A character of a string, or a unit of UTF-16 that the text gives in hexadecimal. -/
inductive StringUnit where
  | char (c : Char)
  | unit (code : Nat)
deriving DecidableEq

structure Numeral where
  negative : Bool
  whole : List Char
  fraction : List Char
  exponent : Option Int
deriving DecidableEq

inductive Source where
  | null
  | bool (value : Bool)
  | number (numeral : Numeral)
  | string (units : List StringUnit)
  | array (items : List Source)
  | object (fields : List (List StringUnit × Source))

namespace Source

abbrev Reader (α : Type) : Type := List Char → Option (α × List Char)

def isJsonBlank (c : Char) : Bool :=
  c = ' ' || c = '\n' || c = '\t' || c = '\r'

def skipBlanks (text : List Char) : List Char :=
  text.dropWhile isJsonBlank

def shortEscape? (c : Char) : Option Char :=
  if c = '"' ∨ c = '\\' ∨ c = '/' then some c
  else if c = 'n' then some '\n'
  else if c = 't' then some '\t'
  else if c = 'r' then some '\r'
  else if c = 'b' then some '\x08'
  else if c = 'f' then some '\x0c'
  else none

/-- The rest of a string behind its opening quote. -/
def readUnits : Reader (List StringUnit)
  | [] => none
  | '\\' :: 'u' :: a :: b :: c :: d :: rest =>
    match Text.ofHexDigits? [a, b, c, d], readUnits rest with
    | some code, some (units, rest) => some (.unit code :: units, rest)
    | _, _ => none
  | '\\' :: e :: rest =>
    match shortEscape? e, readUnits rest with
    | some c, some (units, rest) => some (.char c :: units, rest)
    | _, _ => none
  | c :: rest =>
    if c = '"' then
      some ([], rest)
    else if c = '\\' ∨ c.toNat < 0x20 then
      none
    else
      match readUnits rest with
      | some (units, rest) => some (.char c :: units, rest)
      | none => none

def readString : Reader (List StringUnit)
  | '"' :: rest => readUnits rest
  | _ => none

def readDigits : Reader (List Char) := fun text =>
  match text.takeWhile Char.isDigit with
  | [] => none
  | digits => some (digits, text.dropWhile Char.isDigit)

/-- The digits before the decimal point, of which a leading zero is the only one. -/
def readWhole : Reader (List Char)
  | '0' :: rest => some (['0'], rest)
  | text => readDigits text

def readFraction : Reader (List Char)
  | '.' :: rest => readDigits rest
  | text => some ([], text)

def readSign : List Char → Bool × List Char
  | '+' :: rest => (false, rest)
  | '-' :: rest => (true, rest)
  | text => (false, text)

def readExponent : Reader (Option Int)
  | [] => some (none, [])
  | c :: rest =>
    if c = 'e' ∨ c = 'E' then
      let (negative, rest) := readSign rest
      match readDigits rest with
      | some (digits, rest) =>
        let value : Int := Nat.ofDigitChars 10 digits 0
        some (some (if negative then -value else value), rest)
      | none => none
    else
      some (none, c :: rest)

def readNumeral : Reader Numeral := fun text =>
  let (negative, text) := match text with
    | '-' :: rest => (true, rest)
    | text => (false, text)
  match readWhole text with
  | none => none
  | some (whole, text) =>
    match readFraction text with
    | none => none
    | some (fraction, text) =>
      match readExponent text with
      | none => none
      | some (exponent, text) => some (⟨negative, whole, fraction, exponent⟩, text)

def readSeparated {α : Type} (item : Reader α) (closing : Char) (text : List Char) :
    Option (List α × List Char) :=
  match item text with
  | none => none
  | some (first, rest) =>
    match skipBlanks rest with
    | [] => none
    | c :: rest =>
      if c = closing then
        some ([first], rest)
      else if c = ',' ∧ rest.length < text.length then
        match readSeparated item closing rest with
        | some (others, rest) => some (first :: others, rest)
        | none => none
      else
        none
termination_by text.length

/-- What stands between two brackets: nothing, or items with commas between them. -/
def readBracketed {α : Type} (item : Reader α) (closing : Char) : Reader (List α) := fun text =>
  match skipBlanks text with
  | [] => none
  | c :: rest => if c = closing then some ([], rest) else readSeparated item closing (c :: rest)

def readField (value : Reader Source) : Reader (List StringUnit × Source) := fun text =>
  match readString (skipBlanks text) with
  | none => none
  | some (key, rest) =>
    match skipBlanks rest with
    | ':' :: rest =>
      match value rest with
      | some (value, rest) => some ((key, value), rest)
      | none => none
    | _ => none

def mapReader {α β : Type} (f : α → β) (reader : Reader α) : Reader β := fun text =>
  (reader text).map (fun result => (f result.1, result.2))

def readValue : Nat → Reader Source
  | 0, _ => none
  | depth + 1, text =>
    match skipBlanks text with
    | 'n' :: 'u' :: 'l' :: 'l' :: rest => some (.null, rest)
    | 't' :: 'r' :: 'u' :: 'e' :: rest => some (.bool true, rest)
    | 'f' :: 'a' :: 'l' :: 's' :: 'e' :: rest => some (.bool false, rest)
    | '"' :: rest => mapReader .string readUnits rest
    | '[' :: rest => mapReader .array (readBracketed (readValue depth) ']') rest
    | '{' :: rest => mapReader .object (readBracketed (readField (readValue depth)) '}') rest
    | text => mapReader .number readNumeral text

/-- The value that a whole text spells. No value nests deeper than its text is long. -/
def ofText? (text : String) : Option Source :=
  match readValue (text.toList.length + 1) text.toList with
  | some (value, rest) => if skipBlanks rest = [] then some value else none
  | none => none

end Source

end ParamTree
