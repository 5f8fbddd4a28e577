import ParamTree.Proofs.ByteCursor

/-!
# The places of tokens

A text with tokens is a row of spans with blanks in between, and the end behind them. Main
statement: `tokens_partition_text`, about every text read by positions in bytes.
-/

namespace ParamTree.Cursor

open Text Lexer

/-- The characters from a byte on are blanks and tokens in turns, and blanks before the end. -/
inductive Tiles : Nat → List Char → List Span → Prop where
  | last {pos blanks} : (∀ c ∈ blanks, isBlank c = true) →
    Tiles pos blanks [⟨⟨.eof, pos + width blanks⟩, pos + width blanks⟩]
  | token {pos blanks taken rest token others} :
    (∀ c ∈ blanks, isBlank c = true) → taken ≠ [] → token ≠ .eof →
    Tiles (pos + width blanks + width taken) rest others →
    Tiles pos (blanks ++ (taken ++ rest))
      (⟨⟨token, pos + width blanks⟩, pos + width blanks + width taken⟩ :: others)

/-- A character of the text begins at the byte, or the text ends there. -/
def Boundary (text : List Char) (pos : Nat) : Prop :=
  ∃ rest, At text pos rest

/-- The character at the byte is within the span. -/
def Span.Covers (span : Span) (pos : Nat) (c : Char) : Prop :=
  span.offset ≤ pos ∧ pos + c.utf8Size ≤ span.stop

/-- The spans of a text that was split into tokens. -/
structure Partitions (text : List Char) (spans : List Span) : Prop where
  boundaries : ∀ span ∈ spans, Boundary text span.offset ∧ Boundary text span.stop
  nonempty : ∀ span ∈ spans, span.token ≠ .eof → span.offset < span.stop
  increasing : spans.Pairwise fun span later =>
    span.offset < later.offset ∧ span.stop ≤ later.offset
  gaps : ∀ front c back, text = front ++ c :: back →
    (∃ span ∈ spans, Span.Covers span (width front) c) ∨ isBlank c = true
  ended : ∃ used, spans = used ++ [⟨⟨.eof, width text⟩, width text⟩] ∧
    ∀ span ∈ used, span.token ≠ .eof

section

variable {text rest : List Char} {pos : Nat} {found : List Span}

theorem width_pos {taken : List Char} (h : taken ≠ []) : 0 < width taken := by
  cases taken with
  | nil => exact absurd rfl h
  | cons c taken =>
    have hSize := c.utf8Size_pos
    rw [width_cons]
    omega

theorem Tiles.le_offset (h : Tiles pos rest found) : ∀ span ∈ found, pos ≤ span.offset := by
  induction h with
  | last => simp
  | token _ _ _ _ ih =>
    rintro span (_ | ⟨_, hMem⟩)
    · exact Nat.le_add_right _ _
    · have hLater := ih span hMem
      omega

theorem Tiles.boundaries (h : Tiles pos rest found) (hAt : At text pos rest) :
    ∀ span ∈ found, Boundary text span.offset ∧ Boundary text span.stop := by
  induction h with
  | @last pos blanks =>
    rintro span (_ | ⟨_, ⟨⟩⟩)
    have hEnd : At text (pos + width blanks) [] := hAt.behind (List.append_nil blanks)
    exact ⟨⟨_, hEnd⟩, ⟨_, hEnd⟩⟩
  | token _ _ _ _ ih =>
    rintro span (_ | ⟨_, hMem⟩)
    · exact ⟨⟨_, hAt.append⟩, ⟨_, hAt.append.append⟩⟩
    · exact ih hAt.append.append span hMem

theorem Tiles.nonempty (h : Tiles pos rest found) :
    ∀ span ∈ found, span.token ≠ .eof → span.offset < span.stop := by
  induction h with
  | last =>
    rintro span (_ | ⟨_, ⟨⟩⟩) hToken
    exact absurd rfl hToken
  | token _ hTaken _ _ ih =>
    rintro span (_ | ⟨_, hMem⟩) hToken
    · exact Nat.lt_add_of_pos_right (width_pos hTaken)
    · exact ih span hMem hToken

theorem Tiles.increasing (h : Tiles pos rest found) :
    found.Pairwise fun span later => span.offset < later.offset ∧ span.stop ≤ later.offset := by
  induction h with
  | last => exact List.pairwise_singleton _ _
  | token _ hTaken _ hOthers ih =>
    refine List.pairwise_cons.mpr ⟨fun later hMem => ?_, ih⟩
    have hLater := hOthers.le_offset later hMem
    have hWidth := width_pos hTaken
    exact ⟨Nat.lt_of_lt_of_le (Nat.lt_add_of_pos_right hWidth) hLater, hLater⟩

/-- A character of two lists one after the other is one of the first or one of the second. -/
theorem middle_of_append {xs ys front back : List Char} {c : Char}
    (h : xs ++ ys = front ++ c :: back) :
    (∃ inner, xs = front ++ c :: inner) ∨ ∃ inner, front = xs ++ inner ∧ ys = inner ++ c :: back := by
  obtain ⟨inner, hFront, hYs⟩ | ⟨inner, hXs, hBack⟩ := List.append_eq_append_iff.mp h
  · exact .inr ⟨inner, hFront, hYs⟩
  · cases inner with
    | nil => exact .inr ⟨[], by simpa using hXs.symm, hBack.symm⟩
    | cons d inner =>
      obtain ⟨rfl, -⟩ := List.cons.inj hBack
      exact .inl ⟨inner, hXs⟩

theorem Tiles.gaps (h : Tiles pos rest found) {front back : List Char} {c : Char}
    (hChar : rest = front ++ c :: back) :
    (∃ span ∈ found, Span.Covers span (pos + width front) c) ∨ isBlank c = true := by
  induction h generalizing front with
  | last hBlanks => exact .inr (hBlanks c (by simp [hChar]))
  | @token pos blanks taken rest token others hBlanks _ _ _ ih =>
    -- the character is a blank in front of the token, or one of the token, or behind it
    obtain ⟨inner, rfl⟩ | ⟨inner, rfl, hInner⟩ := middle_of_append hChar
    · exact .inr (hBlanks c (by simp))
    obtain ⟨behind, rfl⟩ | ⟨behind, rfl, hBehind⟩ := middle_of_append hInner
    · refine .inl ⟨_, .head _, ?_, ?_⟩
      · simp only [width_append]
        omega
      · simp only [width_append, width_cons]
        omega
    · obtain ⟨span, hMem, hCovers⟩ | hBlank := ih hBehind
      · refine .inl ⟨span, .tail _ hMem, ?_⟩
        rwa [width_append, width_append, ← Nat.add_assoc, ← Nat.add_assoc]
      · exact .inr hBlank

theorem Tiles.ended (h : Tiles pos rest found) :
    ∃ used, found = used ++ [⟨⟨.eof, pos + width rest⟩, pos + width rest⟩] ∧
      ∀ span ∈ used, span.token ≠ .eof := by
  induction h with
  | last => exact ⟨[], rfl, fun _ hMem => nomatch hMem⟩
  | @token pos blanks taken rest token others _ _ hToken _ ih =>
    obtain ⟨used, rfl, hUsed⟩ := ih
    refine ⟨⟨⟨token, pos + width blanks⟩, pos + width blanks + width taken⟩ :: used, ?_, ?_⟩
    · simp only [width_append, List.cons_append, ← Nat.add_assoc]
    · rintro span (_ | ⟨_, hMem⟩)
      · exact hToken
      · exact hUsed span hMem

theorem Tiles.partitions (h : Tiles 0 text found) : Partitions text found where
  boundaries := h.boundaries (at_start text)
  nonempty := h.nonempty
  increasing := h.increasing
  gaps front c back hChar := by
    have hGaps := h.gaps hChar
    rwa [Nat.zero_add] at hGaps
  ended := by
    have hEnded := h.ended
    rwa [Nat.zero_add] at hEnded

theorem blanks_append_dropWhile (rest : List Char) :
    ∃ blanks, (∀ c ∈ blanks, isBlank c = true) ∧ blanks ++ rest.dropWhile isBlank = rest :=
  ⟨_, List.all_eq_true.mp List.all_takeWhile, List.takeWhile_append_dropWhile⟩

theorem exists_turn {n : Nat} (h : spansLoop text n pos = some (.ok found)) :
    ∃ left, n = left + 1 := by
  cases n with
  | zero => cases h
  | succ left => exact ⟨left, rfl⟩

theorem tiles_of_spansLoop (hAt : At text pos rest) {n : Nat}
    (h : spansLoop text n pos = some (.ok found)) : Tiles pos rest found := by
  induction rest using tokensFrom.induct generalizing n pos found with
  | case1 rest hEnd =>
    obtain ⟨n, rfl⟩ := exists_turn h
    obtain ⟨blanks, hBlanks, hRest⟩ := blanks_append_dropWhile rest
    rw [hEnd, List.append_nil] at hRest
    subst hRest
    have hStop : At text (pos + width blanks) [] := hAt.behind (List.append_nil blanks)
    have hTotal : pos + width blanks = width text := hStop.pos_eq
    obtain rfl := Except.ok.inj (Option.some.inj ((spansLoop_end hAt hEnd n).symm.trans h))
    rw [← hTotal]
    exact .last hBlanks
  | case2 rest c others hRest misread hToken =>
    obtain ⟨n, rfl⟩ := exists_turn h
    cases (spansLoop_error hAt hRest hToken n).symm.trans h
  | case3 rest c others hRest token after hToken ih =>
    obtain ⟨n, rfl⟩ := exists_turn h
    obtain ⟨hAfter, -⟩ := at_behind_token hAt hRest hToken
    obtain ⟨result, hLater, hResult⟩ :=
      Option.map_eq_some_iff.mp ((spansLoop_token hAt hRest hToken n).symm.trans h)
    obtain ⟨laterSpans, rfl, rfl⟩ := map_eq_ok hResult
    -- the text is cut into the blanks, the token and what is behind it
    obtain ⟨blanks, hBlanks, hCut⟩ := blanks_append_dropWhile rest
    obtain ⟨used, hUsed⟩ := suffix_of_readToken hToken
    rw [hRest] at hCut
    subst hCut
    have hStart := hAt.append
    have hStop : At text (pos + width blanks + width (c :: used)) after :=
      hStart.behind (congrArg (c :: ·) hUsed)
    have hNotEof : token ≠ .eof := by
      rintro rfl
      cases lexeme_of_readToken hToken
    have hOthers := ih hAfter hLater
    rw [← hStop.pos_eq] at hOthers
    have hTiles := Tiles.token hBlanks (List.cons_ne_nil c used) hNotEof hOthers
    rw [hStop.pos_eq, hStart.pos_eq] at hTiles
    exact congrArg (blanks ++ c :: ·) hUsed ▸ hTiles

end

/-- No cut of any text goes through a character and every loop ends, the tokens and the errors are
those of the text, and the spans of the tokens cover it up to blanks. -/
theorem tokens_partition_text (text : String) :
    ∃ result, spans text.toList = some result ∧
      result.map (List.map Span.toLocated) = Token.ofText text ∧
      ∀ found, result = .ok found → Partitions text.toList found := by
  obtain ⟨result, hResult, hTokens⟩ := spans_eq text.toList
  refine ⟨result, hResult, hTokens, ?_⟩
  rintro found rfl
  exact (tiles_of_spansLoop (at_start _) hResult).partitions

/-- A name and a string of more bytes than characters. -/
theorem tokens_partition_text_two_bytes :
    ∃ found, spans "é + 'ü'".toList = some (.ok found) ∧
      found.map Span.toLocated =
        [⟨.ident "é", 0⟩, ⟨.symbol .plus, 3⟩, ⟨.string "ü", 5⟩, ⟨.eof, 9⟩] ∧
      Partitions "é + 'ü'".toList found := by
  have hTokens : Token.ofText "é + 'ü'" =
      .ok [⟨.ident "é", 0⟩, ⟨.symbol .plus, 3⟩, ⟨.string "ü", 5⟩, ⟨.eof, 9⟩] := by
    apply Except.eq_ok_of_toOption
    decide +kernel
  obtain ⟨result, hResult, hSame, hPartitions⟩ := tokens_partition_text "é + 'ü'"
  obtain ⟨found, rfl, hFound⟩ := Lexer.map_eq_ok (hSame.trans hTokens)
  exact ⟨found, hResult, hFound, hPartitions found rfl⟩

end ParamTree.Cursor
