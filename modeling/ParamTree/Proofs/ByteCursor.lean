import ParamTree.Proofs.Spelling

/-!
# Tokens by positions in bytes

The tokens of a text, read with a position in bytes that goes forward by the sizes of the characters
that are taken, and by four for the digits of an escape. A cut that goes through a character has no
result. Main statement: `spans_eq`, by which no such cut is made and the tokens are the same.
-/

namespace ParamTree

/-- A token with the place where it starts and the place behind it. -/
structure Span extends Located where
  stop : Nat
deriving DecidableEq

theorem Lexer.tokensFrom_error {text rest : List Char} {c : Char} {misread : Misread}
    (hText : text.dropWhile Text.isBlank = c :: rest)
    (hToken : readToken c rest = .error misread) (total : Nat) :
    tokensFrom total text = .error (misread.located total) := by
  rw [tokensFrom]
  split
  · rename_i hNil
    rw [hText] at hNil
    cases hNil
  · rename_i hCons
    rw [hText] at hCons
    cases hCons
    rw [hToken]

namespace Cursor

open Text Lexer

/-- The characters from a byte on, if a character begins there or the text ends. -/
def fromByte? : List Char → Nat → Option (List Char)
  | text, 0 => some text
  | [], _ + 1 => none
  | c :: rest, pos + 1 =>
    if c.utf8Size ≤ pos + 1 then fromByte? rest (pos + 1 - c.utf8Size) else none

/-- The characters between two bytes, if characters begin there. -/
def between? (text : List Char) (start stop : Nat) : Option (List Char) :=
  if start ≤ stop then (fromByte? text start).bind (takeBytes? (stop - start)) else none

/-- What is read off a text: nothing if the text is cut inside of a character, or if a loop does not
end in its turns. -/
abbrev Reading (α : Type) : Type := ExceptT SyntaxError Option α

section

variable (text : List Char)

def peek (pos : Nat) : Option (Option Char) :=
  (fromByte? text pos).map List.head?

/-- The character with this number, counted from the position on, is of the kind. -/
def nextIs (p : Char → Bool) (count pos : Nat) : Option Bool :=
  (fromByte? text pos).map fun rest => rest[count]?.any p

def bump (pos : Nat) : Option Nat := do
  match ← peek text pos with
  | some c => pure (pos + c.utf8Size)
  | none => pure pos

def bumpTimes : Nat → Nat → Option Nat
  | 0, pos => some pos
  | count + 1, pos => do bumpTimes count (← bump text pos)

def eat? (c : Char) (pos : Nat) : Option (Option Nat) := do
  if (← peek text pos) = some c then pure (some (pos + c.utf8Size)) else pure none

/-- A loop has a turn for every character of the text, and one at its end. -/
def turns : Nat := text.length + 1

def skipLoop (p : Char → Bool) : Nat → Nat → Option Nat
  | 0, _ => none
  | left + 1, pos => do
    if ← nextIs text p 0 pos then skipLoop p left (← bump text pos) else pure pos

def skipWhile (p : Char → Bool) (pos : Nat) : Option Nat :=
  skipLoop text p (turns text) pos

/-- The position behind some characters and the digits that follow them, if there are any. -/
def digitsBehind (count pos : Nat) : Option Nat := do
  if ← nextIs text Char.isDigit count pos then
    skipWhile text Char.isDigit (← bumpTimes text count pos)
  else
    pure pos

def fraction (pos : Nat) : Option Nat := do
  if ← nextIs text (· = '.') 0 pos then digitsBehind text 1 pos else pure pos

def exponent (pos : Nat) : Option Nat := do
  if ← nextIs text (fun c => c = 'e' || c = 'E') 0 pos then
    if ← nextIs text (fun c => c = '+' || c = '-') 1 pos then
      digitsBehind text 2 pos
    else
      digitsBehind text 1 pos
  else
    pure pos

def number (offset pos : Nat) : Reading (Token × Nat) := do
  let pos ← skipWhile text Char.isDigit pos
  let pos ← fraction text pos
  let pos ← exponent text pos
  let numeral ← between? text offset pos
  match Number.ofNumeral? numeral with
  | some n => return (.number n, pos)
  | none => throw ⟨.invalidNumber (String.ofList numeral), offset⟩

/-- The four bytes of a hexadecimal escape are asked for without a cut. -/
def hexEscape (escape pos : Nat) : Reading (Char × Nat) :=
  match between? text pos (pos + 4) with
  | none => throw ⟨.truncatedEscape, escape⟩
  | some digits =>
    match escapeCode? digits with
    | none => throw ⟨.invalidEscape (String.ofList digits), escape⟩
    | some code =>
      match scalar? code with
      | none => throw ⟨.invalidCodePoint (String.ofList digits), escape⟩
      | some c => return (c, pos + 4)

def escape (offset pos : Nat) : Reading (Char × Nat) := do
  match ← peek text pos with
  | none => throw ⟨.unterminatedString, offset⟩
  | some e =>
    if e = 'u' then
      hexEscape text pos (pos + e.utf8Size)
    else
      match shortEscape? e with
      | none => throw ⟨.unknownEscape e, pos⟩
      | some c => return (c, pos + e.utf8Size)

def stringLoop (quote : Char) (offset : Nat) : Nat → Nat → List Char → Reading (List Char × Nat)
  | 0, _, _ => ExceptT.mk none
  | left + 1, pos, content => do
    match ← peek text pos with
    | none => throw ⟨.unterminatedString, offset⟩
    | some c =>
      if c = quote then
        return (content, pos + c.utf8Size)
      else if c = '\\' then
        let (meant, pos) ← escape text offset (pos + c.utf8Size)
        stringLoop quote offset left pos (content ++ [meant])
      else
        stringLoop quote offset left (pos + c.utf8Size) (content ++ [c])

def string (quote : Char) (offset pos : Nat) : Reading (List Char × Nat) :=
  stringLoop text quote offset (turns text) pos []

def orEqual (alone withEqual : Symbol) (pos : Nat) : Reading (Token × Nat) := do
  match ← eat? text '=' pos with
  | some pos => return (.symbol withEqual, pos)
  | none => return (.symbol alone, pos)

def equality (sign : Symbol) (pos : Nat) : Reading (Token × Nat) := do
  return (.symbol sign, (← eat? text '=' pos).getD pos)

/-- The token that begins at the offset with this character, which is behind the position. -/
def tokenFrom (offset : Nat) (c : Char) (pos : Nat) : Reading (Token × Nat) := do
  match simpleSymbol? c with
  | some sign => return (.symbol sign, pos)
  | none =>
    if c = '.' then
      if ← nextIs text Char.isDigit 0 pos then number text offset pos
      else return (.symbol .dot, pos)
    else if c = '<' then
      orEqual text .lt .le pos
    else if c = '>' then
      orEqual text .gt .ge pos
    else if c = '!' then
      match ← eat? text '=' pos with
      | some pos => equality text .notEq pos
      | none => return (.symbol .bang, pos)
    else if c = '=' then
      match ← eat? text '=' pos with
      | some pos => equality text .eqEq pos
      | none => throw ⟨.assignment, offset⟩
    else if c = '\'' ∨ c = '"' then
      let (content, pos) ← string text c offset pos
      return (.string (String.ofList content), pos)
    else if c.isDigit then
      number text offset pos
    else if isNameStart c then
      let pos ← skipWhile text isNamePart pos
      let name ← between? text offset pos
      return (.ident (String.ofList name), pos)
    else
      match (if c = '&' then some Symbol.andAnd else if c = '|' then some .orOr else none),
        ← eat? text c pos with
      | some sign, some pos => return (.symbol sign, pos)
      | _, _ => throw ⟨.unexpectedCharacter c, offset⟩

def nextSpan (pos : Nat) : Reading Span := do
  let offset ← skipWhile text isBlank pos
  match ← peek text offset with
  | none => return ⟨⟨.eof, offset⟩, offset⟩
  | some c =>
    let (token, stop) ← tokenFrom text offset c (offset + c.utf8Size)
    return ⟨⟨token, offset⟩, stop⟩

def spansLoop : Nat → Nat → Reading (List Span)
  | 0, _ => ExceptT.mk none
  | left + 1, pos => do
    let span ← nextSpan text pos
    if span.token = .eof then
      return [span]
    else
      let others ← spansLoop left span.stop
      return span :: others

def spans : Reading (List Span) :=
  spansLoop text (turns text) 0

end

/-! ### Positions -/

/-- The position is that of the first character of the rest, or of the end if there is none. -/
def At (text : List Char) (pos : Nat) (rest : List Char) : Prop :=
  ∃ front, text = front ++ rest ∧ width front = pos

theorem fromByte?_cons (c : Char) (rest : List Char) (count : Nat) :
    fromByte? (c :: rest) (c.utf8Size + count) = fromByte? rest count := by
  have hSize := c.utf8Size_pos
  obtain ⟨below, hBelow⟩ : ∃ below, c.utf8Size + count = below + 1 :=
    ⟨c.utf8Size + count - 1, by omega⟩
  rw [hBelow, fromByte?, if_pos (by omega), ← hBelow, Nat.add_sub_cancel_left]

theorem takeBytes?_cons (c : Char) (rest : List Char) (count : Nat) :
    takeBytes? (c.utf8Size + count) (c :: rest) = (takeBytes? count rest).map (c :: ·) := by
  have hSize := c.utf8Size_pos
  obtain ⟨below, hBelow⟩ : ∃ below, c.utf8Size + count = below + 1 :=
    ⟨c.utf8Size + count - 1, by omega⟩
  rw [hBelow, takeBytes?, if_pos (by omega), ← hBelow, Nat.add_sub_cancel_left]

theorem fromByte?_append (front rest : List Char) :
    fromByte? (front ++ rest) (width front) = some rest := by
  induction front with
  | nil => cases rest <;> rfl
  | cons c front ih => rw [List.cons_append, width_cons, fromByte?_cons, ih]

theorem takeBytes?_width (front rest : List Char) :
    takeBytes? (width front) (front ++ rest) = some front := by
  induction front with
  | nil => cases rest <;> rfl
  | cons c front ih =>
    rw [List.cons_append, width_cons, takeBytes?_cons, ih]
    rfl

section Positions

variable {text rest front : List Char} {pos : Nat} {c : Char}

theorem at_start (text : List Char) : At text 0 text := ⟨[], rfl, rfl⟩

theorem At.append (h : At text pos (front ++ rest)) : At text (pos + width front) rest := by
  obtain ⟨before, rfl, rfl⟩ := h
  exact ⟨before ++ front, (List.append_assoc _ _ _).symm, width_append _ _⟩

theorem At.cons (h : At text pos (c :: rest)) : At text (pos + c.utf8Size) rest :=
  @At.append text rest [c] pos h

theorem At.behind {back : List Char} (h : At text pos rest) (hRest : front ++ back = rest) :
    At text (pos + width front) back := by
  subst hRest
  exact h.append

theorem At.fromByte?_eq (h : At text pos rest) : fromByte? text pos = some rest := by
  obtain ⟨before, rfl, rfl⟩ := h
  exact fromByte?_append before rest

theorem At.pos_eq (h : At text pos rest) : pos = width text - width rest := by
  obtain ⟨before, rfl, rfl⟩ := h
  rw [width_append, Nat.add_sub_cancel]

theorem At.suffix {after : List Char} (h : At text pos rest) (hAfter : after <:+ rest) :
    At text (width text - width after) after := by
  obtain ⟨used, hRest⟩ := hAfter
  have hBehind := h.behind hRest
  rw [← hBehind.pos_eq]
  exact hBehind

theorem At.between?_eq (h : At text pos (front ++ rest)) :
    between? text pos (pos + width front) = some front := by
  rw [between?, if_pos (Nat.le_add_right _ _), h.fromByte?_eq, Nat.add_sub_cancel_left]
  exact takeBytes?_width front rest

theorem bind_of_eq_some {α β : Type} {o : Option α} {a : α} (h : o = some a)
    (f : α → Option β) : (o >>= f) = f a := by
  subst h
  rfl

theorem lift_bind_of_eq_some {α β : Type} {o : Option α} {a : α} (h : o = some a)
    (f : α → Reading β) : ((liftM o : Reading α) >>= f) = f a := by
  subst h
  rfl

theorem peek_eq (h : At text pos rest) : peek text pos = some rest.head? := by
  rw [peek, h.fromByte?_eq]
  rfl

theorem nextIs_eq (h : At text pos rest) (p : Char → Bool) (count : Nat) :
    nextIs text p count pos = some (rest[count]?.any p) := by
  rw [nextIs, h.fromByte?_eq]
  rfl

theorem bump_eq (h : At text pos (c :: rest)) : bump text pos = some (pos + c.utf8Size) := by
  rw [bump, bind_of_eq_some (peek_eq h)]
  rfl

theorem bumpTimes_eq (h : At text pos (front ++ rest)) :
    bumpTimes text front.length pos = some (pos + width front) := by
  induction front generalizing pos with
  | nil => rfl
  | cons c front ih =>
    rw [List.length_cons, bumpTimes, bind_of_eq_some (bump_eq h), ih h.cons, width_cons,
      Nat.add_assoc]

theorem eat?_eq (h : At text pos rest) (c : Char) :
    eat? text c pos = some ((Lexer.eat? c rest).map fun after => width text - width after) := by
  rw [eat?, bind_of_eq_some (peek_eq h)]
  cases rest with
  | nil => rfl
  | cons d rest =>
    have hPos := h.cons.pos_eq
    simp only [List.head?_cons, Option.some.injEq, Lexer.eat?]
    split
    · rename_i hEq
      subst hEq
      simp [hPos]
    · rfl

theorem At.length_le (h : At text pos rest) : rest.length ≤ text.length := by
  obtain ⟨before, rfl, -⟩ := h
  rw [List.length_append]
  exact Nat.le_add_left _ _

theorem skipLoop_eq (h : At text pos rest) (p : Char → Bool) {n : Nat} (hTurns : rest.length ≤ n) :
    skipLoop text p (n + 1) pos = some (pos + width (rest.takeWhile p)) := by
  induction rest generalizing n pos with
  | nil =>
    rw [skipLoop, bind_of_eq_some (nextIs_eq h p 0)]
    rfl
  | cons c rest ih =>
    rw [skipLoop, bind_of_eq_some (nextIs_eq h p 0), List.takeWhile_cons]
    change (if p c = true then _ else _) = _
    split
    · obtain ⟨n, rfl⟩ := Nat.exists_eq_succ_of_ne_zero (Nat.ne_zero_of_lt hTurns)
      rw [bind_of_eq_some (bump_eq h), ih h.cons (Nat.le_of_succ_le_succ hTurns), width_cons,
        Nat.add_assoc]
    · rfl

theorem skipWhile_eq (h : At text pos rest) (p : Char → Bool) :
    skipWhile text p pos = some (pos + width (rest.takeWhile p)) :=
  skipLoop_eq h p h.length_le

/-- The result of a reader of characters as one by positions. -/
def placed {α : Type} (text : List Char) : Except Misread (α × List Char) → Reading (α × Nat)
  | .ok (value, after) => pure (value, width text - width after)
  | .error misread => throw (misread.located (width text))

theorem placed_ok {α : Type} (h : At text pos rest) (value : α) :
    placed text (.ok (value, rest)) = pure (value, pos) := by
  rw [h.pos_eq]
  rfl

theorem placed_error {α : Type} (h : At text pos rest) (fault : SyntaxFault) :
    (placed text (.error ⟨fault, rest⟩) : Reading (α × Nat)) = throw ⟨fault, pos⟩ := by
  rw [h.pos_eq]
  rfl

/-! ### Numerals -/

theorem startsWithDigit_eq (rest : List Char) :
    startsWithDigit rest = rest[0]?.any Char.isDigit := by
  cases rest <;> rfl

theorem digitsBehind_eq (h : At text pos (front ++ rest)) :
    digitsBehind text front.length pos =
      some (pos + if startsWithDigit rest then width (front ++ (digitSpan rest).1) else 0) := by
  have hNext : nextIs text Char.isDigit front.length pos = some (startsWithDigit rest) := by
    rw [nextIs_eq h, List.getElem?_append_right (Nat.le_refl _), Nat.sub_self, startsWithDigit_eq]
  rw [digitsBehind, bind_of_eq_some hNext]
  split
  · rw [bind_of_eq_some (bumpTimes_eq h), skipWhile_eq h.append, width_append, Nat.add_assoc]
    rfl
  · rfl

theorem fraction_eq (h : At text pos rest) :
    fraction text pos = some (pos + width (fractionSpan rest).1) := by
  rw [fraction, bind_of_eq_some (nextIs_eq h _ 0)]
  cases rest with
  | nil => rfl
  | cons c rest =>
    simp only [List.getElem?_cons_zero, Option.any_some, decide_eq_true_eq, fractionSpan]
    by_cases hPoint : c = '.'
    · subst hPoint
      have hDigits := @digitsBehind_eq text rest ['.'] pos h
      rw [if_pos rfl]
      refine hDigits.trans ?_
      simp only [true_and]
      split <;> rfl
    · rw [if_neg hPoint, if_neg fun hBoth => hPoint hBoth.1]
      rfl

theorem exponent_eq (h : At text pos rest) :
    exponent text pos = some (pos + width (exponentSpan rest).1) := by
  rw [exponent, bind_of_eq_some (nextIs_eq h _ 0)]
  cases rest with
  | nil => rfl
  | cons c rest =>
    simp only [List.getElem?_cons_zero, Option.any_some, Bool.or_eq_true, decide_eq_true_eq,
      exponentSpan]
    by_cases hLetter : c = 'e' ∨ c = 'E'
    · rw [if_pos hLetter, bind_of_eq_some (nextIs_eq h _ 1)]
      simp only [hLetter, true_and]
      have hAlone := @digitsBehind_eq text rest [c] pos h
      cases rest with
      | nil => exact hAlone
      | cons d rest =>
        simp only [List.getElem?_cons_succ, List.getElem?_cons_zero, Option.any_some, signSpan,
          Bool.or_eq_true, decide_eq_true_eq]
        split
        · refine (@digitsBehind_eq text rest [c, d] pos h).trans ?_
          dsimp only
          split <;> rfl
        · refine hAlone.trans ?_
          dsimp only
          split <;> rfl
    · rw [if_neg hLetter, if_neg fun hBoth => hLetter hBoth.1]
      rfl

theorem number_eq {offset : Nat} (h : At text offset (c :: rest)) :
    number text offset (offset + c.utf8Size) = placed text (readNumber c rest) := by
  have hWhole := h.cons.behind (digitSpan_append rest)
  have hFraction := hWhole.behind (fractionSpan_append _)
  have hExponent := hFraction.behind (exponentSpan_append _)
  have hNumeral : At text offset (c :: (numeralSpan rest).1 ++ (numeralSpan rest).2) := by
    rw [List.cons_append, numeralSpan_append]
    exact h
  have hBetween := hNumeral.between?_eq
  rw [width_cons, numeralSpan, width_append, width_append, ← Nat.add_assoc, ← Nat.add_assoc,
    ← Nat.add_assoc] at hBetween
  have hDigits : skipWhile text Char.isDigit (offset + c.utf8Size) =
      some (offset + c.utf8Size + width (digitSpan rest).1) :=
    skipWhile_eq h.cons Char.isDigit
  rw [number, lift_bind_of_eq_some hDigits, lift_bind_of_eq_some (fraction_eq hWhole),
    lift_bind_of_eq_some (exponent_eq hFraction), lift_bind_of_eq_some hBetween]
  simp only [readNumber, numeralSpan]
  cases Number.ofNumeral? (c :: ((digitSpan rest).1 ++ (fractionSpan (digitSpan rest).2).1 ++
    (exponentSpan (fractionSpan (digitSpan rest).2).2).1)) with
  | some n => exact (placed_ok hExponent _).symm
  | none => exact (placed_error h _).symm

/-! ### Strings -/

theorem hexEscape_eq (h : At text pos rest) (escape : Nat) :
    hexEscape text escape pos =
      match readEscape rest with
      | .error fault => throw ⟨fault, escape⟩
      | .ok value => pure (value, pos + 4) := by
  have hBytes : between? text pos (pos + 4) = takeBytes? 4 rest := by
    rw [between?, if_pos (Nat.le_add_right _ _), h.fromByte?_eq, Nat.add_sub_cancel_left]
    rfl
  rw [hexEscape, hBytes, readEscape]
  cases takeBytes? 4 rest with
  | none => rfl
  | some digits =>
    dsimp only
    cases escapeCode? digits with
    | none => rfl
    | some code =>
      dsimp only
      cases scalar? code <;> rfl

/-- The digits of an escape are as many characters as bytes. -/
theorem At.behind_escape {value : Char} (h : At text pos rest)
    (hEscape : readEscape rest = .ok value) : At text (pos + 4) (rest.drop 4) := by
  obtain ⟨digits, -, hRest, hLength, hParts⟩ := digits_of_readEscape hEscape
  have hWidth : width digits = digits.length := by
    clear hRest hLength
    induction digits with
    | nil => rfl
    | cons d digits ih =>
      obtain ⟨hFirst, hOthers⟩ := List.forall_mem_cons.mp hParts
      rw [width_cons, utf8Size_of_isEscapePart hFirst, ih hOthers, List.length_cons, Nat.add_comm]
  have hBehind := h.behind hRest.symm
  rwa [hWidth, hLength] at hBehind

theorem escape_eq {e : Char} {offset : Nat} (h : At text pos (e :: rest)) :
    escape text offset pos =
      if e = 'u' then
        hexEscape text pos (pos + e.utf8Size)
      else
        match shortEscape? e with
        | none => throw ⟨.unknownEscape e, pos⟩
        | some value => pure (value, pos + e.utf8Size) := by
  rw [escape, lift_bind_of_eq_some (peek_eq h)]
  rfl

theorem map_putFirst (content : List Char) (c : Char)
    (result : Except Misread (List Char × List Char)) :
    (result.map (putFirst c)).map (fun result => (content ++ result.1, result.2)) =
      result.map fun result => (content ++ [c] ++ result.1, result.2) := by
  cases result with
  | error misread => rfl
  | ok result => simp [Except.map, putFirst]

/-- The content that has been read stands in front of that of the rest. -/
theorem stringLoop_eq {quote : Char} {offset : Nat} {start : List Char}
    (hStart : At text offset start) (h : At text pos rest) (content : List Char) {n : Nat}
    (hTurns : rest.length ≤ n) :
    stringLoop text quote offset (n + 1) pos content =
      placed text ((readString quote start rest).map fun result =>
        (content ++ result.1, result.2)) := by
  have hNext {c : Char} {rest : List Char} {n : Nat} (hTurns : (c :: rest).length ≤ n) :
      ∃ less, n = less + 1 ∧ rest.length ≤ less :=
    ⟨n - 1, by rw [List.length_cons] at hTurns; omega, Nat.le_sub_one_of_lt hTurns⟩
  fun_induction readString quote start rest generalizing n pos content with
  | case1 =>
    rw [stringLoop, lift_bind_of_eq_some (peek_eq h)]
    exact (placed_error hStart _).symm
  | case2 rest =>
    rw [stringLoop, lift_bind_of_eq_some (peek_eq h)]
    refine (if_pos rfl).trans ?_
    rw [Except.map, List.append_nil, placed_ok h.cons]
  | case3 hNotQuote =>
    rw [stringLoop, lift_bind_of_eq_some (peek_eq h)]
    refine (if_neg hNotQuote).trans ((if_pos rfl).trans ?_)
    rw [escape, lift_bind_of_eq_some (peek_eq h.cons)]
    exact (placed_error hStart _).symm
  | case4 after fault hFault hNotQuote =>
    rw [stringLoop, lift_bind_of_eq_some (peek_eq h)]
    refine (if_neg hNotQuote).trans ((if_pos rfl).trans ?_)
    rw [escape_eq h.cons, if_pos rfl, hexEscape_eq h.cons.cons, hFault]
    exact (placed_error h.cons _).symm
  | case5 after c hEscape hNotQuote ih =>
    obtain ⟨n, rfl, hLess⟩ := hNext hTurns
    rw [stringLoop, lift_bind_of_eq_some (peek_eq h)]
    refine (if_neg hNotQuote).trans ((if_pos rfl).trans ?_)
    rw [escape_eq h.cons, if_pos rfl, hexEscape_eq h.cons.cons, hEscape, map_putFirst]
    have hDrop : (after.drop 4).length ≤ n :=
      Nat.le_trans (List.drop_suffix 4 after).length_le (Nat.le_of_succ_le hLess)
    exact ih (h.cons.cons.behind_escape hEscape) _ hDrop
  | case6 e after hNotU hNone hNotQuote =>
    rw [stringLoop, lift_bind_of_eq_some (peek_eq h)]
    refine (if_neg hNotQuote).trans ((if_pos rfl).trans ?_)
    rw [escape_eq h.cons, if_neg hNotU, hNone]
    exact (placed_error h.cons _).symm
  | case7 e after hNotU c hShort hNotQuote ih =>
    obtain ⟨n, rfl, hLess⟩ := hNext hTurns
    rw [stringLoop, lift_bind_of_eq_some (peek_eq h)]
    refine (if_neg hNotQuote).trans ((if_pos rfl).trans ?_)
    rw [escape_eq h.cons, if_neg hNotU, hShort, map_putFirst]
    exact ih h.cons.cons _ (Nat.le_of_succ_le hLess)
  | case8 c rest hQuote hBackslash ih =>
    obtain ⟨n, rfl, hLess⟩ := hNext hTurns
    rw [stringLoop, lift_bind_of_eq_some (peek_eq h)]
    refine (if_neg hQuote).trans ((if_neg hBackslash).trans ?_)
    rw [map_putFirst]
    exact ih h.cons _ hLess

theorem string_eq {quote : Char} {offset : Nat} {start : List Char} (hStart : At text offset start)
    (h : At text pos rest) : string text quote offset pos =
      placed text (readString quote start rest) := by
  rw [string, turns, stringLoop_eq hStart h [] h.length_le]
  cases readString quote start rest <;> rfl

/-! ### Tokens -/

theorem orEqual_eq (h : At text pos rest) (alone withEqual : Symbol) :
    orEqual text alone withEqual pos = placed text (.ok (Lexer.orEqual alone withEqual rest)) := by
  rw [orEqual, lift_bind_of_eq_some (eat?_eq h '='), Lexer.orEqual]
  cases Lexer.eat? '=' rest with
  | none => exact (placed_ok h _).symm
  | some after => rfl

theorem equality_eq (h : At text pos rest) (sign : Symbol) :
    equality text sign pos = placed text (.ok (Lexer.equality sign rest)) := by
  rw [equality, lift_bind_of_eq_some (eat?_eq h '='), Lexer.equality]
  cases Lexer.eat? '=' rest with
  | none => exact (placed_ok h _).symm
  | some after => rfl

theorem ite_eq_placed {α : Type} {p : Prop} [Decidable p] {yes no : Reading (α × Nat)}
    {yes' no' : Except Misread (α × List Char)} (hYes : p → yes = placed text yes')
    (hNo : ¬p → no = placed text no') :
    (if p then yes else no) = placed text (if p then yes' else no') := by
  by_cases h : p
  · rw [if_pos h, if_pos h, hYes h]
  · rw [if_neg h, if_neg h, hNo h]

theorem tokenFrom_eq {offset : Nat} (h : At text offset (c :: rest)) :
    tokenFrom text offset c (offset + c.utf8Size) = placed text (readToken c rest) := by
  have hRest := h.cons
  unfold tokenFrom readToken
  cases simpleSymbol? c with
  | some sign => exact (placed_ok hRest _).symm
  | none =>
    refine ite_eq_placed ?dot fun _ => ite_eq_placed ?less fun _ => ite_eq_placed ?greater fun _ =>
      ite_eq_placed ?bang fun _ => ite_eq_placed ?assign fun _ => ite_eq_placed ?quote fun _ =>
      ite_eq_placed ?digit fun _ => ite_eq_placed ?name fun _ => ?double
    case dot =>
      intro _
      rw [lift_bind_of_eq_some (nextIs_eq hRest _ 0), startsWithDigit_eq]
      exact ite_eq_placed (fun _ => number_eq h) fun _ => (placed_ok hRest _).symm
    case less =>
      intro _
      exact orEqual_eq hRest .lt .le
    case greater =>
      intro _
      exact orEqual_eq hRest .gt .ge
    case bang =>
      intro _
      rw [lift_bind_of_eq_some (eat?_eq hRest '=')]
      cases hEat : Lexer.eat? '=' rest with
      | none => exact (placed_ok hRest _).symm
      | some after => exact equality_eq (hRest.suffix (suffix_of_eat? hEat)) .notEq
    case assign =>
      intro _
      rw [lift_bind_of_eq_some (eat?_eq hRest '=')]
      cases hEat : Lexer.eat? '=' rest with
      | none => exact (placed_error h _).symm
      | some after => exact equality_eq (hRest.suffix (suffix_of_eat? hEat)) .eqEq
    case quote =>
      intro _
      rw [string_eq h hRest]
      cases readString c (c :: rest) rest <;> rfl
    case digit =>
      intro _
      exact number_eq h
    case name =>
      intro _
      have hName : At text offset (c :: rest.takeWhile isNamePart ++ rest.dropWhile isNamePart) := by
        rw [List.cons_append, List.takeWhile_append_dropWhile]
        exact h
      have hBetween := hName.between?_eq
      rw [width_cons, ← Nat.add_assoc] at hBetween
      rw [lift_bind_of_eq_some (skipWhile_eq hRest isNamePart), lift_bind_of_eq_some hBetween]
      exact (placed_ok (hRest.behind List.takeWhile_append_dropWhile) _).symm
    case double =>
      rw [lift_bind_of_eq_some (eat?_eq hRest c)]
      cases (if c = '&' then some Symbol.andAnd else if c = '|' then some .orOr else none) with
      | none => exact (placed_error h _).symm
      | some sign =>
        cases Lexer.eat? c rest with
        | none => exact (placed_error h _).symm
        | some after => rfl

/-! ### Texts -/

theorem skipBlanks_eq (h : At text pos rest) :
    ∃ offset, skipWhile text isBlank pos = some offset ∧
      At text offset (rest.dropWhile isBlank) :=
  ⟨_, skipWhile_eq h isBlank, h.behind List.takeWhile_append_dropWhile⟩

theorem spansLoop_end (h : At text pos rest) (hEnd : rest.dropWhile isBlank = []) (n : Nat) :
    spansLoop text (n + 1) pos = some (.ok [⟨⟨.eof, width text⟩, width text⟩]) := by
  obtain ⟨offset, hBlanks, hOffset⟩ := skipBlanks_eq h
  rw [hEnd] at hOffset
  have hSpan : nextSpan text pos = pure ⟨⟨.eof, width text⟩, width text⟩ := by
    rw [nextSpan, lift_bind_of_eq_some hBlanks, lift_bind_of_eq_some (peek_eq hOffset),
      hOffset.pos_eq]
    rfl
  rw [spansLoop, hSpan]
  rfl

section Token

variable {others : List Char} (h : At text pos rest) (hRest : rest.dropWhile isBlank = c :: others)
include h hRest

theorem nextSpan_eq :
    nextSpan text pos =
      match readToken c others with
      | .error misread => throw (misread.located (width text))
      | .ok (token, after) =>
        pure ⟨⟨token, width text - width (c :: others)⟩, width text - width after⟩ := by
  obtain ⟨offset, hBlanks, hOffset⟩ := skipBlanks_eq h
  rw [hRest] at hOffset
  rw [nextSpan, lift_bind_of_eq_some hBlanks, lift_bind_of_eq_some (peek_eq hOffset)]
  dsimp only [List.head?_cons]
  rw [tokenFrom_eq hOffset, hOffset.pos_eq]
  cases readToken c others <;> rfl

theorem spansLoop_error {misread : Misread} (hToken : readToken c others = .error misread)
    (n : Nat) : spansLoop text (n + 1) pos = some (.error (misread.located (width text))) := by
  rw [spansLoop, nextSpan_eq h hRest, hToken]
  rfl

theorem spansLoop_token {token : Token} {after : List Char}
    (hToken : readToken c others = .ok (token, after)) (n : Nat) :
    spansLoop text (n + 1) pos = (spansLoop text n (width text - width after)).run.map
      (Except.map (⟨⟨token, width text - width (c :: others)⟩, width text - width after⟩ :: ·)) := by
  have hNotEof : token ≠ .eof := by
    rintro rfl
    cases lexeme_of_readToken hToken
  rw [spansLoop, nextSpan_eq h hRest, hToken]
  refine (if_neg hNotEof).trans ?_
  change ExceptT.bind (spansLoop text n (width text - width after)) _ = _
  cases spansLoop text n (width text - width after) with
  | none => rfl
  | some result => cases result <;> rfl

theorem at_behind_token {token : Token} {after : List Char}
    (hToken : readToken c others = .ok (token, after)) :
    At text (width text - width after) after ∧ after.length < rest.length := by
  have hDrop := List.dropWhile_suffix (l := rest) isBlank
  rw [hRest] at hDrop
  have hAfter := (suffix_of_readToken hToken).length_le
  refine ⟨h.suffix ((suffix_of_readToken hToken).trans ((List.suffix_cons c others).trans hDrop)), ?_⟩
  exact Nat.lt_of_le_of_lt hAfter hDrop.length_le

end Token

theorem spansLoop_eq (h : At text pos rest) {n : Nat} (hTurns : rest.length ≤ n) :
    ∃ result, spansLoop text (n + 1) pos = some result ∧
      result.map (List.map Span.toLocated) = tokensFrom (width text) rest := by
  induction rest using tokensFrom.induct generalizing n pos with
  | case1 rest hEnd => exact ⟨_, spansLoop_end h hEnd n, (tokensFrom_blanks hEnd _).symm⟩
  | case2 rest c others hRest misread hToken =>
    exact ⟨_, spansLoop_error h hRest hToken n, (tokensFrom_error hRest hToken _).symm⟩
  | case3 rest c others hRest token after hToken ih =>
    obtain ⟨hAfter, hShorter⟩ := at_behind_token h hRest hToken
    obtain ⟨n, rfl⟩ := Nat.exists_eq_succ_of_ne_zero
      (Nat.ne_zero_of_lt (Nat.lt_of_lt_of_le hShorter hTurns))
    obtain ⟨result, hResult, hTokens⟩ :=
      ih hAfter (Nat.le_of_lt_succ (Nat.lt_of_lt_of_le hShorter hTurns))
    refine ⟨_, (spansLoop_token h hRest hToken _).trans (congrArg _ hResult), ?_⟩
    rw [tokensFrom_token hRest hToken, ← hTokens]
    cases result <;> rfl

end Positions

/-- The loops end, no cut goes through a character, and the tokens are those of the characters. -/
theorem spans_eq (text : List Char) :
    ∃ result, spans text = some result ∧
      result.map (List.map Span.toLocated) = tokensFrom (width text) text :=
  spansLoop_eq (at_start text) (Nat.le_refl _)

end Cursor

end ParamTree
