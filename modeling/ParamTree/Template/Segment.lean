import ParamTree.Config.Basic

/-!
# Segments of a text

A text is literal pieces and markers. A marker reaches from its opening token to the first closing
token that stands outside of quotes and brackets; an opening token without one is literal text.
Quotes are counted from the front: a backslash takes the next character of a quoted string out of
its role.
Main statement: what is found at a token and at the end of a marker puts the text together again.
-/

namespace ParamTree

/-- Where a character stands with respect to the quoted strings of a text. -/
inductive Quoting where
  | plain
  | quoted (quote : Char)
  | escaped (quote : Char)
deriving DecidableEq

def isQuote (c : Char) : Bool :=
  c = '\'' || c = '"'

def Quoting.next : Quoting → Char → Quoting
  | plain, c => if isQuote c then quoted c else plain
  | quoted quote, c =>
    if c = '\\' then escaped quote else if c = quote then plain else quoted quote
  | escaped quote, _ => quoted quote

inductive Segment where
  | literal (text : String)
  | marker (raw body : String)
deriving DecidableEq

namespace Segment

def raw : Segment → String
  | literal text => text
  | marker raw _ => raw

def isMarker : Segment → Bool
  | literal _ => false
  | marker _ _ => true

def putFirst (c : Char) (pieces : List Char × List Char) : List Char × List Char :=
  (c :: pieces.1, pieces.2)

/-- What stands before the first place of a token, and what stands behind it. -/
def findToken? (token : List Char) : List Char → Option (List Char × List Char)
  | [] => none
  | c :: rest =>
    if token.isPrefixOf (c :: rest) then
      some ([], (c :: rest).drop token.length)
    else
      (findToken? token rest).map (putFirst c)

def depthAfter (depth : Nat) (c : Char) : Nat :=
  if c = '(' ∨ c = '[' ∨ c = '{' then depth + 1
  else if c = ')' ∨ c = ']' ∨ c = '}' then depth - 1
  else depth

/-- What stands before the closing token of a marker, and what stands behind it. The token counts
outside of quotes and of brackets opened since; a bracket that closes too much is passed over. -/
def findClose? (closing : List Char) (depth : Nat) (quoting : Quoting) :
    List Char → Option (List Char × List Char)
  | [] => none
  | c :: rest =>
    if quoting = .plain ∧ depth = 0 ∧ closing.isPrefixOf (c :: rest) then
      some ([], (c :: rest).drop closing.length)
    else
      let depth := if quoting = .plain then depthAfter depth c else depth
      (findClose? closing depth (quoting.next c) rest).map (putFirst c)

theorem eq_of_isPrefixOf {token text : List Char} (h : token.isPrefixOf text = true) :
    text = token ++ text.drop token.length := by
  obtain ⟨rest, rfl⟩ := List.isPrefixOf_iff_prefix.mp h
  simp

theorem eq_of_findToken? {token text before after : List Char}
    (h : findToken? token text = some (before, after)) : text = before ++ token ++ after := by
  induction text generalizing before after with
  | nil => cases h
  | cons c rest ih =>
    simp only [findToken?] at h
    split at h
    · rename_i hToken
      cases h
      exact eq_of_isPrefixOf hToken
    · obtain ⟨⟨b, a⟩, hRest, hPieces⟩ := Option.map_eq_some_iff.mp h
      cases hPieces
      rw [ih hRest]
      rfl

theorem eq_of_findClose? {closing text body after : List Char} {depth : Nat} {quoting : Quoting}
    (h : findClose? closing depth quoting text = some (body, after)) :
    text = body ++ closing ++ after := by
  induction text generalizing body after depth quoting with
  | nil => cases h
  | cons c rest ih =>
    simp only [findClose?] at h
    split at h
    · rename_i hClosing
      cases h
      exact eq_of_isPrefixOf hClosing.2.2
    · obtain ⟨⟨b, a⟩, hRest, hPieces⟩ := Option.map_eq_some_iff.mp h
      cases hPieces
      rw [ih hRest]
      rfl

def ofLiteral (piece : List Char) : List Segment :=
  if piece = [] then [] else [.literal (String.ofList piece)]

/-- The segments of a text, the literal piece `pending` before it included. The opening token is
`first :: others`. -/
def split (first : Char) (others closing pending text : List Char) : List Segment :=
  match _hOpen : findToken? (first :: others) text with
  | none => ofLiteral (pending ++ text)
  | some (before, inside) =>
    match _hClose : findClose? closing 0 .plain inside with
    | none => split first others closing (pending ++ before ++ first :: others) inside
    | some (body, after) =>
      ofLiteral (pending ++ before) ++
        .marker (String.ofList (first :: others ++ body ++ closing)) (String.ofList body) ::
          split first others closing [] after
termination_by text.length
decreasing_by
  · rw [eq_of_findToken? _hOpen]
    simp only [List.length_append, List.length_cons]
    omega
  · rw [eq_of_findToken? _hOpen, eq_of_findClose? _hClose]
    simp only [List.length_append, List.length_cons]
    omega

theorem split_of_none {first : Char} {others closing pending text : List Char}
    (h : findToken? (first :: others) text = none) :
    split first others closing pending text = ofLiteral (pending ++ text) := by
  rw [split]
  split
  · rfl
  · rename_i hSome
    rw [h] at hSome
    cases hSome

theorem split_of_unclosed {first : Char} {others closing pending text before inside : List Char}
    (hOpen : findToken? (first :: others) text = some (before, inside))
    (hClose : findClose? closing 0 .plain inside = none) :
    split first others closing pending text =
      split first others closing (pending ++ before ++ first :: others) inside := by
  rw [split]
  split
  · rename_i hNone
    rw [hOpen] at hNone
    cases hNone
  · rename_i hSome
    rw [hOpen] at hSome
    cases hSome
    split
    · rfl
    · rename_i hClosed
      rw [hClose] at hClosed
      cases hClosed

theorem split_of_some {first : Char} {others closing pending text before inside body after : List Char}
    (hOpen : findToken? (first :: others) text = some (before, inside))
    (hClose : findClose? closing 0 .plain inside = some (body, after)) :
    split first others closing pending text =
      ofLiteral (pending ++ before) ++
        .marker (String.ofList (first :: others ++ body ++ closing)) (String.ofList body) ::
          split first others closing [] after := by
  rw [split]
  split
  · rename_i hNone
    rw [hOpen] at hNone
    cases hNone
  · rename_i hSome
    rw [hOpen] at hSome
    cases hSome
    split
    · rename_i hNone
      rw [hClose] at hNone
      cases hNone
    · rename_i hSome
      rw [hClose] at hSome
      cases hSome
      rfl

/-- The segments of a text. No marker begins with an empty token. -/
def scan (delimiters : Delimiters) (text : String) : List Segment :=
  match delimiters.opening.toList with
  | [] => ofLiteral text.toList
  | first :: others => split first others delimiters.closing.toList [] text.toList

end Segment

end ParamTree
