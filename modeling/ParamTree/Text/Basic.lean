/-!
# Characters and places of a text

A property of characters is a list of closed ranges of code points. White space is meant in the
sense of the Unicode property White_Space. Places are counted in bytes of UTF-8. Hexadecimal digits
are written in lower case, at their natural length or padded to four, and read in either case.
-/

namespace ParamTree.Text

/-! ## Ranges of code points -/

structure CodeRange where
  first : Nat
  last : Nat

def CodeRange.contains (range : CodeRange) (code : Nat) : Bool :=
  range.first ≤ code && code ≤ range.last

def inRanges (ranges : List CodeRange) (code : Nat) : Bool :=
  ranges.any (fun range => range.contains code)

theorem inRanges_iff (ranges : List CodeRange) (code : Nat) :
    inRanges ranges code = true ↔ ∃ range ∈ ranges, range.first ≤ code ∧ code ≤ range.last := by
  simp [inRanges, CodeRange.contains]

/-! ## Blank characters -/

def blankRanges : List CodeRange :=
  [⟨0x09, 0x0d⟩, ⟨0x20, 0x20⟩, ⟨0x85, 0x85⟩, ⟨0xa0, 0xa0⟩, ⟨0x1680, 0x1680⟩, ⟨0x2000, 0x200a⟩,
    ⟨0x2028, 0x2029⟩, ⟨0x202f, 0x202f⟩, ⟨0x205f, 0x205f⟩, ⟨0x3000, 0x3000⟩]

def isBlank (c : Char) : Bool :=
  inRanges blankRanges c.toNat

def trimStart (text : List Char) : List Char :=
  text.dropWhile isBlank

def trimEnd (text : List Char) : List Char :=
  (text.reverse.dropWhile isBlank).reverse

def trimBlanks (text : List Char) : List Char :=
  trimEnd (trimStart text)

def trim (text : String) : String :=
  String.ofList (trimBlanks text.toList)

@[simp] theorem trimBlanks_nil : trimBlanks [] = [] := rfl

@[simp] theorem toList_trim (text : String) : (trim text).toList = trimBlanks text.toList := by
  simp [trim]

/-! ## Places -/

def width : List Char → Nat
  | [] => 0
  | c :: rest => c.utf8Size + width rest

/-- The characters of the first `count` bytes, or `none` if the text is shorter or a character goes
across the end. -/
def takeBytes? : Nat → List Char → Option (List Char)
  | 0, _ => some []
  | _ + 1, [] => none
  | count + 1, c :: rest =>
    if c.utf8Size ≤ count + 1 then
      (takeBytes? (count + 1 - c.utf8Size) rest).map (c :: ·)
    else
      none

@[simp] theorem width_nil : width [] = 0 := rfl

@[simp] theorem width_cons (c : Char) (rest : List Char) :
    width (c :: rest) = c.utf8Size + width rest := rfl

@[simp] theorem width_append (a b : List Char) : width (a ++ b) = width a + width b := by
  induction a with
  | nil => simp
  | cons c rest ih => simp [ih, Nat.add_assoc]

/-! ## Hexadecimal numerals -/

def hexDigits (n : Nat) : List Char :=
  Nat.toDigits 16 n

/-- Four digits, for `n` below 0x10000. -/
def hexFour (n : Nat) : List Char :=
  [n / 0x1000 % 16, n / 0x100 % 16, n / 0x10 % 16, n % 16].map Nat.digitChar

def hexValue? (c : Char) : Option Nat :=
  if c.isDigit then
    some (c.toNat - '0'.toNat)
  else if 'a' ≤ c ∧ c ≤ 'f' then
    some (c.toNat - 'a'.toNat + 10)
  else if 'A' ≤ c ∧ c ≤ 'F' then
    some (c.toNat - 'A'.toNat + 10)
  else
    none

/-- The number that hexadecimal digits of either case write, or `none` if another character is
among them. -/
def ofHexDigits? (digits : List Char) : Option Nat :=
  digits.foldlM (fun value c => (hexValue? c).map (value * 16 + ·)) 0

example : hexFour 0x1f = ['0', '0', '1', 'f'] := by decide

example : ofHexDigits? ['0', '0', 'e', '9'] = some 0xe9 := by decide

end ParamTree.Text
