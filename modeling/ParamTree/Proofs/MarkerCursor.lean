import ParamTree.Proofs.TokenSpans
import ParamTree.Template.Segment

/-!
# Markers by positions in bytes

The segments of a text, found by a loop that keeps two positions in bytes: the one behind the last
marker, and the cursor, from which on the next opening token is looked for. A cut that goes through
a character has no result. Main statements: `segments_eq`, by which no such cut is made and the
segments are the same, and `Sweep.Divides.turn?`, by which the cursor goes forward at every turn.
-/

namespace ParamTree.Cursor

open Text Segment

/-- The first place of a token in a text. -/
def place? (token : List Char) : List Char → Option Nat
  | [] => if token = [] then some 0 else none
  | c :: rest =>
    if token.isPrefixOf (c :: rest) then some 0 else (place? token rest).map (c.utf8Size + ·)

/-- Whether the closing token is met at a place of the body. Inside of quotes and brackets no cut is
made. -/
def closesAt? (body closing : List Char) (depth : Nat) (quoting : Quoting) (pos : Nat) :
    Option Bool :=
  if quoting = .plain ∧ depth = 0 then
    (fromByte? body pos).map closing.isPrefixOf
  else
    some false

/-- The place of the closing token in a body, if there is one. The last two arguments are the place
that was come to and the characters from there on. -/
def closingPlace? (body closing : List Char) (depth : Nat) (quoting : Quoting) :
    Nat → List Char → Option (Option Nat)
  | _, [] => some none
  | pos, c :: rest => do
    if ← closesAt? body closing depth quoting pos then
      pure (some pos)
    else
      closingPlace? body closing (if quoting = .plain then depthAfter depth c else depth)
        (quoting.next c) (pos + c.utf8Size) rest

/-- Where the loop over a text stands. Behind `literalStart` nothing is in the segments yet. -/
structure Sweep where
  found : List Segment
  literalStart : Nat
  cursor : Nat
deriving DecidableEq

def Sweep.start : Sweep := ⟨[], 0, 0⟩

/-- The literal piece between two places, unless nothing is between them. -/
def literal? (text : List Char) (start stop : Nat) : Option (List Segment) :=
  if start < stop then
    (between? text start stop).map fun piece => [.literal (String.ofList piece)]
  else
    some []

/-- One turn of the loop: the next state, or none inside where no opening token is left. -/
def Sweep.turn? (text opening closing : List Char) (state : Sweep) : Option (Option Sweep) := do
  match place? opening (← fromByte? text state.cursor) with
  | none => pure none
  | some place =>
    let start := state.cursor + place
    let bodyStart := start + width opening
    let inside ← fromByte? text bodyStart
    match ← closingPlace? inside closing 0 .plain 0 inside with
    | none => pure (some { state with cursor := bodyStart })
    | some length =>
      let stop := bodyStart + length + width closing
      let before ← literal? text state.literalStart start
      let raw ← between? text start stop
      let body ← between? text bodyStart (bodyStart + length)
      let marker := Segment.marker (String.ofList raw) (String.ofList body)
      pure (some ⟨state.found ++ before ++ [marker], stop, stop⟩)

def segmentsLoop (text opening closing : List Char) : Nat → Sweep → Option (List Segment)
  | 0, _ => none
  | left + 1, state => do
    match ← state.turn? text opening closing with
    | some next => segmentsLoop text opening closing left next
    | none => return state.found ++ (← literal? text state.literalStart (width text))

/-- The segments of a text. An empty opening token is not looked for. -/
def segments (delimiters : Delimiters) (text : String) : Option (List Segment) :=
  if delimiters.opening.toList = [] then
    literal? text.toList 0 (width text.toList)
  else
    segmentsLoop text.toList delimiters.opening.toList delimiters.closing.toList
      (turns text.toList) .start

/-- The states that the loop goes through. -/
inductive Reached (delimiters : Delimiters) (text : String) : Sweep → Prop where
  | start : Reached delimiters text .start
  | turn {state next : Sweep} : Reached delimiters text state →
    state.turn? text.toList delimiters.opening.toList delimiters.closing.toList =
      some (some next) →
    Reached delimiters text next

/-! ### Tokens -/

theorem place?_eq {token : List Char} (hToken : token ≠ []) (text : List Char) :
    place? token text = (findToken? token text).map fun pieces => width pieces.1 := by
  induction text with
  | nil => exact if_neg hToken
  | cons c rest ih =>
    rw [place?, findToken?, ih]
    split
    · rfl
    · cases findToken? token rest <;> rfl

theorem closesAt?_eq {body rest : List Char} {pos : Nat} (h : At body pos rest)
    (closing : List Char) (depth : Nat) (quoting : Quoting) :
    closesAt? body closing depth quoting pos =
      some (decide (quoting = .plain ∧ depth = 0 ∧ closing.isPrefixOf rest)) := by
  rw [closesAt?, h.fromByte?_eq]
  by_cases hOpen : quoting = .plain ∧ depth = 0
  · simp only [hOpen, and_self, if_true, Option.map_some, true_and, Bool.decide_eq_true]
  · rw [if_neg hOpen, decide_eq_false fun hAll => hOpen ⟨hAll.1, hAll.2.1⟩]

theorem closingPlace?_eq {body rest : List Char} {pos : Nat} (h : At body pos rest)
    (closing : List Char) (depth : Nat) (quoting : Quoting) :
    closingPlace? body closing depth quoting pos rest =
      some ((findClose? closing depth quoting rest).map fun pieces => pos + width pieces.1) := by
  induction rest generalizing pos depth quoting with
  | nil => rfl
  | cons c rest ih =>
    rw [closingPlace?, bind_of_eq_some (closesAt?_eq h closing depth quoting), findClose?]
    by_cases hClosing : quoting = .plain ∧ depth = 0 ∧ closing.isPrefixOf (c :: rest)
    · simp [hClosing]
    · simp only [decide_eq_true_eq, if_neg hClosing, ih h.cons, Option.map_map]
      congr 2
      funext pieces
      simp [putFirst, Nat.add_assoc]

theorem literal?_eq {text piece rest : List Char} {pos : Nat} (h : At text pos (piece ++ rest)) :
    literal? text pos (pos + width piece) = some (ofLiteral piece) := by
  rw [literal?, ofLiteral]
  by_cases hPiece : piece = []
  · simp [hPiece]
  · rw [if_pos (Nat.lt_add_of_pos_right (width_pos hPiece)), h.between?_eq, if_neg hPiece]
    rfl

/-! ### Turns -/

/-- The literal text behind the last marker, as far as the cursor has gone over it, and the rest. -/
structure Sweep.Divides (state : Sweep) (text pending rest : List Char) : Prop where
  literal : At text state.literalStart (pending ++ rest)
  cursor_eq : state.cursor = state.literalStart + width pending

namespace Sweep

variable {text opening closing pending rest before inside body after : List Char} {state : Sweep}

theorem divides_start (text : List Char) : Divides start text [] text :=
  ⟨at_start text, rfl⟩

theorem Divides.at_cursor (h : state.Divides text pending rest) : At text state.cursor rest := by
  rw [h.cursor_eq]
  exact h.literal.append

section

variable (h : state.Divides text pending rest) (hOpening : opening ≠ [])
include h hOpening

theorem turn?_of_none (hOpen : findToken? opening rest = none) :
    state.turn? text opening closing = some none := by
  rw [turn?, bind_of_eq_some h.at_cursor.fromByte?_eq, place?_eq hOpening, hOpen]
  rfl

/-- An opening token that is not closed is gone over. -/
theorem turn?_of_unclosed (hOpen : findToken? opening rest = some (before, inside))
    (hClose : findClose? closing 0 .plain inside = none) :
    ∃ next, state.turn? text opening closing = some (some next) ∧ next.found = state.found ∧
      next.cursor = state.cursor + width before + width opening ∧
      next.Divides text (pending ++ before ++ opening) inside := by
  have hInside : At text (state.cursor + width before + width opening) inside := by
    have hRest := h.at_cursor
    rw [eq_of_findToken? hOpen, List.append_assoc] at hRest
    exact hRest.append.append
  refine ⟨{ state with cursor := state.cursor + width before + width opening }, ?_, rfl, rfl, ?_⟩
  · rw [turn?, bind_of_eq_some h.at_cursor.fromByte?_eq, place?_eq hOpening, hOpen]
    simp only [Option.map_some]
    rw [bind_of_eq_some hInside.fromByte?_eq,
      bind_of_eq_some (closingPlace?_eq (at_start inside) closing 0 .plain), hClose]
    rfl
  · have hLiteral := h.literal
    rw [eq_of_findToken? hOpen] at hLiteral
    exact ⟨by simpa using hLiteral, by simp [h.cursor_eq, Nat.add_assoc]⟩

/-- A marker is put behind the literal piece before it, and the next piece begins behind it. -/
theorem turn?_of_some (hOpen : findToken? opening rest = some (before, inside))
    (hClose : findClose? closing 0 .plain inside = some (body, after)) :
    ∃ next, state.turn? text opening closing = some (some next) ∧
      next.found = state.found ++ ofLiteral (pending ++ before) ++
        [.marker (String.ofList (opening ++ body ++ closing)) (String.ofList body)] ∧
      next.cursor = state.cursor + width before + width opening + width body + width closing ∧
      next.Divides text [] after := by
  have hRest := h.at_cursor
  have hLiteral := h.literal
  rw [eq_of_findToken? hOpen, List.append_assoc] at hRest hLiteral
  rw [← List.append_assoc pending] at hLiteral
  have hStart := hRest.append
  have hInside := hStart.append
  -- the three cuts: the literal piece in front, the marker, and its body
  have hPiece := literal?_eq hLiteral
  rw [width_append, ← Nat.add_assoc, ← h.cursor_eq] at hPiece
  rw [eq_of_findClose? hClose] at hStart
  have hMarker : At text (state.cursor + width before) (opening ++ body ++ closing ++ after) := by
    simpa using hStart
  have hRaw := hMarker.between?_eq
  have hBody : At text (state.cursor + width before + width opening)
      (body ++ (closing ++ after)) := by
    simpa using hStart.append
  have hContent := hBody.between?_eq
  have hStop := hBody.append.append
  rw [width_append, width_append, ← Nat.add_assoc, ← Nat.add_assoc] at hRaw
  refine ⟨⟨_, _, _⟩, ?_, rfl, rfl, ⟨hStop, rfl⟩⟩
  rw [turn?, bind_of_eq_some h.at_cursor.fromByte?_eq, place?_eq hOpening, hOpen]
  simp only [Option.map_some]
  rw [bind_of_eq_some hInside.fromByte?_eq,
    bind_of_eq_some (closingPlace?_eq (at_start inside) closing 0 .plain), hClose]
  simp only [Option.map_some, Nat.zero_add]
  rw [bind_of_eq_some hPiece, bind_of_eq_some hRaw, bind_of_eq_some hContent]
  rfl

end

end Sweep

/-! ### Runs -/

/-- Behind an opening token the loop has a turn left. -/
theorem exists_turn_left {first : Char} {others rest before inside : List Char} {n : Nat}
    (hOpen : findToken? (first :: others) rest = some (before, inside)) (hTurns : rest.length ≤ n) :
    ∃ less, n = less + 1 ∧ inside.length ≤ less := by
  rw [eq_of_findToken? hOpen, List.length_append, List.length_append, List.length_cons] at hTurns
  exact ⟨n - 1, by omega, by omega⟩

/-- The loop finds the segments of the characters that are left, the pending ones in front. -/
theorem segmentsLoop_eq {text closing pending rest : List Char} {first : Char} {others : List Char}
    {state : Sweep} (h : state.Divides text pending rest) {n : Nat} (hTurns : rest.length ≤ n) :
    segmentsLoop text (first :: others) closing (n + 1) state =
      some (state.found ++ split first others closing pending rest) := by
  have hOpening := List.cons_ne_nil first others
  induction pending, rest using split.induct first others closing generalizing n state with
  | case1 pending rest hOpen =>
    have hEnd : At text state.literalStart (pending ++ rest ++ []) := by
      simpa using h.literal
    have hPiece := literal?_eq hEnd
    have hStop : state.literalStart + width (pending ++ rest) = width text := hEnd.append.pos_eq
    rw [hStop] at hPiece
    rw [segmentsLoop, bind_of_eq_some (Sweep.turn?_of_none h hOpening hOpen), split_of_none hOpen]
    exact bind_of_eq_some hPiece _
  | case2 pending rest before inside hOpen hClose ih =>
    obtain ⟨n, rfl, hLess⟩ := exists_turn_left hOpen hTurns
    obtain ⟨next, hTurn, hFound, -, hDivides⟩ := Sweep.turn?_of_unclosed h hOpening hOpen hClose
    rw [segmentsLoop, bind_of_eq_some hTurn, split_of_unclosed hOpen hClose, ← hFound]
    exact ih hDivides hLess
  | case3 pending rest before inside hOpen body after hClose ih =>
    obtain ⟨n, rfl, hLess⟩ := exists_turn_left hOpen hTurns
    have hAfter : after.length ≤ n := by
      rw [eq_of_findClose? hClose, List.length_append] at hLess
      omega
    obtain ⟨next, hTurn, hFound, -, hDivides⟩ := Sweep.turn?_of_some h hOpening hOpen hClose
    rw [segmentsLoop, bind_of_eq_some hTurn, split_of_some hOpen hClose]
    refine (ih hDivides hAfter).trans ?_
    rw [hFound]
    simp

theorem segments_eq (delimiters : Delimiters) (text : String) :
    segments delimiters text = some (scan delimiters text) := by
  rw [segments, scan]
  cases delimiters.opening.toList with
  | nil =>
    have hPiece := literal?_eq (at_start (text.toList ++ []))
    simpa using hPiece
  | cons first others =>
    rw [if_neg (List.cons_ne_nil first others)]
    exact segmentsLoop_eq (Sweep.divides_start text.toList) (Nat.le_refl _)

section

variable {delimiters : Delimiters} {text : String} {state : Sweep}
  (hOpening : delimiters.opening ≠ "")
include hOpening

/-- What one turn does at a state that divides the text: it ends the loop, or the cursor goes over
an opening token at least and the text is divided again. -/
theorem Sweep.Divides.turn? {pending rest : List Char}
    (h : state.Divides text.toList pending rest) :
    ∃ outcome,
      state.turn? text.toList delimiters.opening.toList delimiters.closing.toList = some outcome ∧
      ∀ next ∈ outcome, state.cursor < next.cursor ∧
        ∃ pending rest, next.Divides text.toList pending rest := by
  have hToken : delimiters.opening.toList ≠ [] := by simpa using hOpening
  have hWidth := width_pos hToken
  cases hOpen : findToken? delimiters.opening.toList rest with
  | none => exact ⟨none, turn?_of_none h hToken hOpen, nofun⟩
  | some pieces =>
    obtain ⟨before, inside⟩ := pieces
    cases hClose : findClose? delimiters.closing.toList 0 .plain inside with
    | none =>
      obtain ⟨next, hTurn, -, hCursor, hDivides⟩ := turn?_of_unclosed h hToken hOpen hClose
      refine ⟨some next, hTurn, ?_⟩
      rintro _ ⟨rfl⟩
      exact ⟨by omega, _, _, hDivides⟩
    | some pieces =>
      obtain ⟨body, after⟩ := pieces
      obtain ⟨next, hTurn, -, hCursor, hDivides⟩ := turn?_of_some h hToken hOpen hClose
      refine ⟨some next, hTurn, ?_⟩
      rintro _ ⟨rfl⟩
      exact ⟨by omega, _, _, hDivides⟩

theorem Reached.divides (h : Reached delimiters text state) :
    ∃ pending rest, state.Divides text.toList pending rest := by
  induction h with
  | start => exact ⟨_, _, Sweep.divides_start _⟩
  | turn _ hTurn ih =>
    obtain ⟨pending, rest, hDivides⟩ := ih
    obtain ⟨outcome, hOutcome, hNext⟩ := hDivides.turn? hOpening
    obtain rfl := Option.some.inj (hOutcome.symm.trans hTurn)
    exact (hNext _ rfl).2

end

/-! ### Places of the text -/

theorem utf8ByteSize_ofList (characters : List Char) :
    (String.ofList characters).utf8ByteSize = width characters := by
  induction characters with
  | nil => rfl
  | cons c rest ih =>
    rw [← List.singleton_append, String.ofList_append, ← String.singleton_eq_ofList,
      String.utf8ByteSize_append, String.utf8ByteSize_singleton, ih, List.singleton_append,
      width_cons]

theorem Boundary.isValid {text : String} {pos : Nat} (h : Boundary text.toList pos) :
    String.Pos.Raw.IsValid text ⟨pos⟩ := by
  obtain ⟨rest, front, hText, rfl⟩ := h
  refine String.Pos.Raw.isValid_iff_exists_append.mpr ⟨.ofList front, .ofList rest, ?_, ?_⟩
  · rw [← String.ofList_append, ← hText, String.ofList_toList]
  · rw [String.Pos.Raw.ext_iff, String.byteIdx_rawEndPos, utf8ByteSize_ofList]

end ParamTree.Cursor
