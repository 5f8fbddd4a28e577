import ParamTree.Expr.Token
import ParamTree.Number.Numeral
import ParamTree.Text.Basic
import ParamTree.Text.Letter

/-!
# Tokens of a text

An expression is read as tokens with blanks between them. Main statement: what is left after a token
is an end of what was left before it, so each token takes a piece of the text of its own.
-/

namespace ParamTree

namespace Lexer

structure Misread where
  fault : SyntaxFault
  rest : List Char

def Misread.located (m : Misread) (total : Nat) : SyntaxError :=
  ⟨m.fault, total - Text.width m.rest⟩

def shortEscape? (c : Char) : Option Char :=
  if c = 'n' then some '\n'
  else if c = 't' then some '\t'
  else if c = 'r' then some '\r'
  else if c = '\\' ∨ c = '\'' ∨ c = '"' ∨ c = '/' then some c
  else none

/-- Hexadecimal digits, which a plus sign may precede. -/
def escapeCode? : List Char → Option Nat
  | '+' :: digits => Text.ofHexDigits? digits
  | digits => Text.ofHexDigits? digits

def scalar? (code : Nat) : Option Char :=
  if code.isValidChar then some (Char.ofNat code) else none

/-- The character of a hexadecimal escape, which takes the next four bytes. -/
def readEscape (text : List Char) : Except SyntaxFault Char :=
  match Text.takeBytes? 4 text with
  | none => .error .truncatedEscape
  | some digits =>
    match escapeCode? digits with
    | none => .error (.invalidEscape (String.ofList digits))
    | some code =>
      match scalar? code with
      | none => .error (.invalidCodePoint (String.ofList digits))
      | some c => .ok c

def putFirst (c : Char) (result : List Char × List Char) : List Char × List Char :=
  (c :: result.1, result.2)

/-- The content of a string and the text behind its closing quote. `start` is the text from the
opening quote on. -/
def readString (quote : Char) (start text : List Char) :
    Except Misread (List Char × List Char) :=
  match text with
  | [] => .error ⟨.unterminatedString, start⟩
  | c :: rest =>
    if c = quote then
      .ok ([], rest)
    else if c = '\\' then
      match rest with
      | [] => .error ⟨.unterminatedString, start⟩
      | e :: after =>
        if e = 'u' then
          match readEscape after with
          | .error fault => .error ⟨fault, rest⟩
          | .ok c => (readString quote start (after.drop 4)).map (putFirst c)
        else
          match shortEscape? e with
          | none => .error ⟨.unknownEscape e, rest⟩
          | some c => (readString quote start after).map (putFirst c)
    else
      (readString quote start rest).map (putFirst c)
termination_by text.length

def readNumber (first : Char) (rest : List Char) : Except Misread (Token × List Char) :=
  let span := numeralSpan rest
  match Number.ofNumeral? (first :: span.1) with
  | some n => .ok (.number n, span.2)
  | none => .error ⟨.invalidNumber (String.ofList (first :: span.1)), first :: rest⟩

def isNameStart (c : Char) : Bool :=
  Text.isAlphabetic c || c = '_' || c = '$'

def isNamePart (c : Char) : Bool :=
  Text.isAlphanumeric c || c = '_' || c = '$'

def readName (first : Char) (rest : List Char) : Token × List Char :=
  (.ident (String.ofList (first :: rest.takeWhile isNamePart)), rest.dropWhile isNamePart)

def simpleSymbol? : Char → Option Symbol
  | '(' => some .lParen
  | ')' => some .rParen
  | '[' => some .lBracket
  | ']' => some .rBracket
  | '{' => some .lBrace
  | '}' => some .rBrace
  | ',' => some .comma
  | ':' => some .colon
  | '?' => some .question
  | '+' => some .plus
  | '-' => some .minus
  | '*' => some .star
  | '/' => some .slash
  | '%' => some .percent
  | _ => none

def eat? (c : Char) : List Char → Option (List Char)
  | [] => none
  | d :: rest => if d = c then some rest else none

/-- A sign that an equals sign turns into another one. -/
def orEqual (alone withEqual : Symbol) (rest : List Char) : Token × List Char :=
  match eat? '=' rest with
  | some rest => (.symbol withEqual, rest)
  | none => (.symbol alone, rest)

/-- An equality sign, whose last equals sign may be left out. -/
def equality (sign : Symbol) (rest : List Char) : Token × List Char :=
  (.symbol sign, (eat? '=' rest).getD rest)

def readToken (c : Char) (rest : List Char) : Except Misread (Token × List Char) :=
  match simpleSymbol? c with
  | some sign => .ok (.symbol sign, rest)
  | none =>
    if c = '.' then
      if startsWithDigit rest then readNumber c rest else .ok (.symbol .dot, rest)
    else if c = '<' then
      .ok (orEqual .lt .le rest)
    else if c = '>' then
      .ok (orEqual .gt .ge rest)
    else if c = '!' then
      match eat? '=' rest with
      | some rest => .ok (equality .notEq rest)
      | none => .ok (.symbol .bang, rest)
    else if c = '=' then
      match eat? '=' rest with
      | some rest => .ok (equality .eqEq rest)
      | none => .error ⟨.assignment, c :: rest⟩
    else if c = '\'' ∨ c = '"' then
      (readString c (c :: rest) rest).map fun result =>
        (.string (String.ofList result.1), result.2)
    else if c.isDigit then
      readNumber c rest
    else if isNameStart c then
      .ok (readName c rest)
    else
      match (if c = '&' then some Symbol.andAnd else if c = '|' then some .orOr else none),
        eat? c rest with
      | some sign, some rest => .ok (.symbol sign, rest)
      | _, _ => .error ⟨.unexpectedCharacter c, c :: rest⟩

theorem map_eq_ok {ε α β : Type} {f : α → β} {result : Except ε α} {b : β}
    (h : result.map f = .ok b) : ∃ a, result = .ok a ∧ f a = b := by
  cases result with
  | error => cases h
  | ok a => exact ⟨a, rfl, Except.ok.inj h⟩

/-- Induction over the text of a string that is read to its end: a closing quote, or an escape or a
character in front of such a text. -/
theorem readString_induction {quote : Char} {start : List Char}
    {motive : List Char → List Char × List Char → Prop}
    (closed : ∀ after, motive (quote :: after) ([], after))
    (code : ∀ rest c result, '\\' ≠ quote → readEscape rest = .ok c →
      motive (rest.drop 4) result → motive ('\\' :: 'u' :: rest) (putFirst c result))
    (short : ∀ e rest c result, '\\' ≠ quote → e ≠ 'u' → shortEscape? e = some c →
      motive rest result → motive ('\\' :: e :: rest) (putFirst c result))
    (plain : ∀ c rest result, c ≠ quote → c ≠ '\\' →
      motive rest result → motive (c :: rest) (putFirst c result))
    {text : List Char} {result : List Char × List Char}
    (h : readString quote start text = .ok result) : motive text result := by
  fun_induction readString quote start text generalizing result with
  | case1 => cases h
  | case2 after =>
    cases h
    exact closed after
  | case3 => cases h
  | case4 => cases h
  | case5 rest c hEscape hNotQuote ih =>
    obtain ⟨tail, hTail, rfl⟩ := map_eq_ok h
    exact code rest c tail hNotQuote hEscape (ih hTail)
  | case6 => cases h
  | case7 e rest hNotU c hShort hNotQuote ih =>
    obtain ⟨tail, hTail, rfl⟩ := map_eq_ok h
    exact short e rest c tail hNotQuote hNotU hShort (ih hTail)
  | case8 c rest hNotQuote hNotBackslash ih =>
    obtain ⟨tail, hTail, rfl⟩ := map_eq_ok h
    exact plain c rest tail hNotQuote hNotBackslash (ih hTail)

theorem suffix_of_readString {quote : Char} {start text : List Char}
    {result : List Char × List Char} (h : readString quote start text = .ok result) :
    result.2 <:+ text := by
  refine readString_induction (motive := fun text result => result.2 <:+ text)
    ?closed ?code ?short ?plain h
  case closed => exact fun after => List.suffix_cons _ _
  case code =>
    intro rest c result _ _ ih
    exact ih.trans ((List.drop_suffix 4 _).trans
      ((List.suffix_cons _ _).trans (List.suffix_cons _ _)))
  case short =>
    intro e rest c result _ _ _ ih
    exact ih.trans ((List.suffix_cons _ _).trans (List.suffix_cons _ _))
  case plain =>
    intro c rest result _ _ ih
    exact ih.trans (List.suffix_cons _ _)

theorem suffix_of_readNumber {first : Char} {rest : List Char} {result : Token × List Char}
    (h : readNumber first rest = .ok result) : result.2 <:+ rest := by
  simp only [readNumber] at h
  split at h
  · cases h
    exact ⟨(numeralSpan rest).1, numeralSpan_append rest⟩
  · cases h

theorem suffix_of_eat? {c : Char} {text rest : List Char} (h : eat? c text = some rest) :
    rest <:+ text := by
  cases text with
  | nil => cases h
  | cons d tail =>
    simp only [eat?] at h
    split at h
    · cases h
      exact List.suffix_cons _ _
    · cases h

theorem suffix_equality (sign : Symbol) (rest : List Char) : (equality sign rest).2 <:+ rest := by
  simp only [equality]
  cases h : eat? '=' rest with
  | none => exact List.suffix_rfl
  | some after => exact suffix_of_eat? h

theorem suffix_orEqual (alone withEqual : Symbol) (rest : List Char) :
    (orEqual alone withEqual rest).2 <:+ rest := by
  simp only [orEqual]
  split
  · rename_i h
    exact suffix_of_eat? h
  · exact List.suffix_rfl

theorem taken_of_ite {p : Prop} [Decidable p] {yes no result : Except Misread (Token × List Char)}
    (h : (if p then yes else no) = result) : p ∧ yes = result ∨ ¬p ∧ no = result := by
  by_cases hp : p
  · exact .inl ⟨hp, (if_pos hp).symm.trans h⟩
  · exact .inr ⟨hp, (if_neg hp).symm.trans h⟩

theorem suffix_of_readToken {c : Char} {rest : List Char} {result : Token × List Char}
    (h : readToken c rest = .ok result) : result.2 <:+ rest := by
  unfold readToken at h
  split at h
  · cases h; exact List.suffix_rfl
  obtain ⟨-, h⟩ | ⟨-, h⟩ := taken_of_ite h
  · obtain ⟨-, h⟩ | ⟨-, h⟩ := taken_of_ite h
    · exact suffix_of_readNumber h
    · cases h; exact List.suffix_rfl
  obtain ⟨-, h⟩ | ⟨-, h⟩ := taken_of_ite h
  · cases h; exact suffix_orEqual _ _ _
  obtain ⟨-, h⟩ | ⟨-, h⟩ := taken_of_ite h
  · cases h; exact suffix_orEqual _ _ _
  obtain ⟨-, h⟩ | ⟨-, h⟩ := taken_of_ite h
  · split at h
    · rename_i hEat
      cases h
      exact (suffix_equality _ _).trans (suffix_of_eat? hEat)
    · cases h; exact List.suffix_rfl
  obtain ⟨-, h⟩ | ⟨-, h⟩ := taken_of_ite h
  · split at h
    · rename_i hEat
      cases h
      exact (suffix_equality _ _).trans (suffix_of_eat? hEat)
    · cases h
  obtain ⟨-, h⟩ | ⟨-, h⟩ := taken_of_ite h
  · obtain ⟨tail, hTail, rfl⟩ := map_eq_ok h
    exact suffix_of_readString hTail
  obtain ⟨-, h⟩ | ⟨-, h⟩ := taken_of_ite h
  · exact suffix_of_readNumber h
  obtain ⟨-, h⟩ | ⟨-, h⟩ := taken_of_ite h
  · cases h; exact List.dropWhile_suffix _
  split at h
  · rename_i hEat
    cases h
    exact suffix_of_eat? hEat
  · cases h

/-- The tokens of the rest of a text that is `total` bytes long. -/
def tokensFrom (total : Nat) (text : List Char) : Except SyntaxError (List Located) :=
  match _hText : text.dropWhile Text.isBlank with
  | [] => .ok [⟨.eof, total⟩]
  | c :: rest =>
    match _hToken : readToken c rest with
    | .error m => .error (m.located total)
    | .ok (token, after) =>
      (tokensFrom total after).map (⟨token, total - Text.width (c :: rest)⟩ :: ·)
termination_by text.length
decreasing_by
  have hAfter : after.length ≤ rest.length := (suffix_of_readToken _hToken).length_le
  have hRest := (List.dropWhile_suffix (l := text) Text.isBlank).length_le
  rw [_hText] at hRest
  simp only [List.length_cons] at hRest
  omega

end Lexer

/-- The tokens of an expression, of which the last one marks the end. -/
def Token.ofText (text : String) : Except SyntaxError (List Located) :=
  Lexer.tokensFrom (Text.width text.toList) text.toList

end ParamTree
