import ParamTree.Entries
import ParamTree.Text.Basic
import ParamTree.Text.Letter

/-!
# Files of variables

A file of lines `NAME=value` that give variables of the environment. Values may be quoted, with
either kind of quotes, may refer to other variables, and go on over several lines as long as a quote
is open. The first line that cannot be read ends the file; what stands before it counts.
-/

namespace ParamTree.VariableFile

/-- Where a line stands at its end with respect to quotes. -/
inductive LineState where
  | complete
  | blank
  | escape
  | strong
  | strongEscape
  | weak
  | weakEscape
deriving DecidableEq

def opened (c : Char) : LineState :=
  if c = '\\' then .escape
  else if c = '"' then .weak
  else if c = '\'' then .strong
  else .complete

def LineState.next : LineState → Char → LineState
  | complete, c => if Text.isBlank c ∧ c ≠ '\n' ∧ c ≠ '\r' then blank else opened c
  | blank, c => opened c
  | escape, _ => complete
  | strong, c => if c = '\\' then strongEscape else if c = '\'' then complete else strong
  | strongEscape, _ => strong
  | weak, c => if c = '\\' then weakEscape else if c = '"' then complete else weak
  | weakEscape, _ => weak

/-- The state at the end of a line, or the part of the line before a comment. -/
def lineEnd (state : LineState) (before : List Char) : List Char → LineState ⊕ List Char
  | [] => .inl state
  | c :: rest =>
    if state = .blank ∧ c = '#' then
      .inr before.reverse
    else
      lineEnd (state.next c) (c :: before) rest

def byteLines : List UInt8 → List (List UInt8)
  | [] => []
  | byte :: rest =>
    if byte = 10 then
      [byte] :: byteLines rest
    else
      match byteLines rest with
      | [] => [[byte]]
      | line :: lines => (byte :: line) :: lines

/-- Lines as text, up to the first one that is none. -/
def decodedLines : List (List UInt8) → List (List Char)
  | [] => []
  | line :: rest =>
    match String.fromUTF8? ⟨line.toArray⟩ with
    | some text => text.toList :: decodedLines rest
    | none => []

def isComment (line : List Char) : Bool :=
  (Text.trimStart line).head? = some '#'

/-- Lines joined where a quote is open at the end. `buffer` is what came before in the line. -/
def logicalLines (state : LineState) (buffer : List Char) :
    List (List Char) → List (List Char)
  | [] => []
  | line :: rest =>
    if isComment (buffer ++ line) then
      logicalLines .complete [] rest
    else
      match lineEnd state [] line with
      | .inr before => (buffer ++ before) :: logicalLines .complete [] rest
      | .inl .complete => (buffer ++ line) :: logicalLines .complete [] rest
      | .inl state => logicalLines state (buffer ++ line) rest

inductive Piece where
  | char (c : Char)
  | valueOf (name : String)
deriving DecidableEq

inductive Phase where
  | text
  | strong
  | escaped
  | reference (name : List Char)
  | braced (name : List Char)
  | ended
deriving DecidableEq

def escape? (c : Char) : Option Char :=
  if c = 'n' then some '\n'
  else if c = '\\' ∨ c = '\'' ∨ c = '"' ∨ c = '$' ∨ c = ' ' then some c
  else none

def reference (name : List Char) : Piece :=
  .valueOf (String.ofList name.reverse)

/-- The pieces of a value, or `none` where it cannot be read. `weak` tells whether a double quote is
open. -/
def pieces? (weak : Bool) (phase : Phase) : List Char → Option (List Piece)
  | [] =>
    match phase with
    | .strong => none
    | .braced _ => none
    | .reference name => if weak then none else some [reference name]
    | _ => if weak then none else some []
  | c :: rest =>
    match phase with
    | .ended =>
      if c = ' ' ∨ c = '\t' then pieces? weak .ended rest
      else if c = '#' then some []
      else none
    | .escaped =>
      match escape? c with
      | some e => (pieces? weak .text rest).map (.char e :: ·)
      | none => none
    | .strong =>
      if c = '\'' then pieces? weak .text rest
      else (pieces? weak .strong rest).map (.char c :: ·)
    | .reference name =>
      if Text.isAlphanumeric c then pieces? weak (.reference (c :: name)) rest
      else if c = '{' ∧ name = [] then pieces? weak (.braced []) rest
      else if c = '$' then (pieces? weak (.reference []) rest).map (reference name :: ·)
      else (pieces? weak .text rest).map (reference name :: .char c :: ·)
    | .braced name =>
      if c = '}' then (pieces? weak .text rest).map (reference name :: ·)
      else pieces? weak (.braced (c :: name)) rest
    | .text =>
      if c = '$' then pieces? weak (.reference []) rest
      else if c = '\\' then pieces? weak .escaped rest
      else if c = '"' then pieces? (!weak) .text rest
      else if weak then (pieces? weak .text rest).map (.char c :: ·)
      else if c = '\'' then pieces? weak .strong rest
      else if c = ' ' ∨ c = '\t' then pieces? weak .ended rest
      else (pieces? weak .text rest).map (.char c :: ·)

structure Assignment where
  name : String
  value : List Piece

def isNameStart (c : Char) : Bool :=
  c.isAlpha || c = '_'

def isNamePart (c : Char) : Bool :=
  c.isAlphanum || c = '_' || c = '.'

def name? : List Char → Option (List Char × List Char)
  | [] => none
  | c :: rest =>
    if isNameStart c then
      some (c :: rest.takeWhile isNamePart, Text.trimStart (rest.dropWhile isNamePart))
    else
      none

def equals? : List Char → Option (List Char)
  | '=' :: rest => some (Text.trimStart rest)
  | _ => none

/-- The name of an assignment and the text of its value. The word `export` may stand before the
name. -/
def assigned? (line : List Char) : Option (List Char × List Char) := do
  let (name, rest) ← name? line
  match equals? rest with
  | some value => return (name, value)
  | none =>
    if name = "export".toList then
      let (name, rest) ← name? rest
      return (name, ← equals? rest)
    else
      none

def ignored (text : List Char) : Bool :=
  text.isEmpty || text.head? = some '#'

/-- The assignment of a line: none at all on an empty line, and an error where it cannot be read. -/
def assignment (line : List Char) : Except Unit (Option Assignment) :=
  let line := Text.trimBlanks line
  if ignored line then
    .ok none
  else
    match assigned? line with
    | none => .error ()
    | some (name, value) =>
      match (if ignored value then some [] else pieces? false .text value) with
      | some pieces => .ok (some ⟨String.ofList name, pieces⟩)
      | none => .error ()

def assignments : List (List Char) → List Assignment
  | [] => []
  | line :: rest =>
    match assignment line with
    | .error _ => []
    | .ok none => assignments rest
    | .ok (some found) => found :: assignments rest

/-- The three bytes of a byte order mark do not belong to the first line. -/
def dropMark : List UInt8 → List UInt8
  | 0xef :: 0xbb :: 0xbf :: rest => rest
  | bytes => bytes

def ofBytes (bytes : ByteArray) : List Assignment :=
  assignments (logicalLines .complete [] (decodedLines (byteLines (dropMark bytes.toList))))

def references (file : List Assignment) : List String :=
  file.flatMap fun found => found.value.filterMap fun
    | .char _ => none
    | .valueOf name => some name

def pieceText (lookup : String → Option String) : Piece → List Char
  | .char c => [c]
  | .valueOf name => ((lookup name).getD "").toList

def valueText (lookup : String → Option String) (value : List Piece) : String :=
  String.ofList (value.flatMap (pieceText lookup))

/-- A variable of the environment, or else of the file. -/
def lookupIn (environment : String → Option String) (found : Entries String) (name : String) :
    Option String :=
  match environment name with
  | some value => some value
  | none => Entries.get? found name

/-- The values of a file. The first assignment of a name counts; references see the environment and
the lines before. -/
def values (environment : String → Option String) (found : Entries String) :
    List Assignment → Entries String
  | [] => found
  | next :: rest =>
    if Entries.contains found next.name then
      values environment found rest
    else
      let value := valueText (lookupIn environment found) next.value
      values environment (Entries.insert found next.name value) rest

end ParamTree.VariableFile
