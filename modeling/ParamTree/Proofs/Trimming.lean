import ParamTree.Proofs.TokenEnds

/-!
# Blanks around an expression

No token goes on into blanks that end a text, and none needs them. Main statement:
`Expr.ofText_trim`, an accepted text spells the same expression without the blanks around it.
-/

namespace ParamTree

theorem Text.ne_of_isBlank {c d : Char} (h : isBlank c = true) (hNot : isBlank d = false) :
    c ≠ d := by
  rintro rfl
  rw [h] at hNot
  cases hNot

namespace Lexer

open Text

theorem isEscapePart_of_isBlank {c : Char} (h : isBlank c = true) : isEscapePart c = false := by
  have hAll : allBlanks (fun c => !isEscapePart c) = true := by decide +kernel
  simpa using of_allBlanks hAll h

theorem shortEscape?_of_isBlank {c : Char} (h : isBlank c = true) : shortEscape? c = none := by
  have hAll : allBlanks (fun c => (shortEscape? c).isNone) = true := by decide +kernel
  simpa using of_allBlanks hAll h

variable {blanks : List Char} (hBlanks : ∀ c ∈ blanks, isBlank c = true)

include hBlanks

theorem breaks_blanks : Breaks blanks :=
  fun c hc => endsToken_of_isBlank (hBlanks c (List.mem_of_mem_head? hc))

theorem takeBytes?_of_append {count : Nat} {text digits : List Char}
    (h : takeBytes? count (text ++ blanks) = some digits)
    (hDigits : ∀ d ∈ digits, isBlank d = false) : takeBytes? count text = some digits := by
  induction text generalizing count digits with
  | nil =>
    cases blanks with
    | nil => exact h
    | cons c blanks =>
      cases count with
      | zero => exact h
      | succ count =>
        rw [List.nil_append, takeBytes?] at h
        split at h
        · obtain ⟨others, -, rfl⟩ := Option.map_eq_some_iff.mp h
          have hNot := hDigits c List.mem_cons_self
          rw [hBlanks c List.mem_cons_self] at hNot
          cases hNot
        · cases h
  | cons c text ih =>
    cases count with
    | zero => exact h
    | succ count =>
      rw [List.cons_append, takeBytes?] at h
      rw [takeBytes?]
      split at h
      · rename_i hSize
        obtain ⟨others, hOthers, rfl⟩ := Option.map_eq_some_iff.mp h
        rw [if_pos hSize, ih hOthers (List.forall_mem_cons.mp hDigits).2]
        rfl
      · cases h

theorem readEscape_of_append {text : List Char} {c : Char}
    (h : readEscape (text ++ blanks) = .ok c) : readEscape text = .ok c ∧ 4 ≤ text.length := by
  obtain ⟨digits, hTake, -, hLength, hParts⟩ := digits_of_readEscape h
  have hDigits : ∀ d ∈ digits, isBlank d = false := by
    intro d hd
    cases hBlank : isBlank d with
    | false => rfl
    | true => exact absurd (hParts d hd) (by simp [isEscapePart_of_isBlank hBlank])
  have hText := takeBytes?_of_append hBlanks hTake hDigits
  have hRead : readEscape text = .ok c := by
    rw [readEscape, hTake] at h
    rw [readEscape, hText]
    exact h
  obtain ⟨others, -, hSplit, hFour, -⟩ := digits_of_readEscape hRead
  refine ⟨hRead, ?_⟩
  rw [hSplit, List.length_append, hFour]
  exact Nat.le_add_right 4 _

theorem readString_blanks {quote : Char} (hQuote : isBlank quote = false) (start : List Char)
    (result : List Char × List Char) : readString quote start blanks ≠ .ok result := by
  induction blanks generalizing result with
  | nil =>
    intro h
    rw [readString.eq_def] at h
    cases h
  | cons c blanks ih =>
    intro h
    obtain ⟨hFirst, hOthers⟩ := List.forall_mem_cons.mp hBlanks
    rw [readString_plain (ne_of_isBlank hFirst hQuote) (ne_of_isBlank hFirst (by decide))] at h
    obtain ⟨tail, hTail, -⟩ := map_eq_ok h
    exact ih hOthers tail hTail

theorem readString_of_append {quote : Char} {start start' text : List Char}
    {result : List Char × List Char} (hQuote : isBlank quote = false)
    (h : readString quote start (text ++ blanks) = .ok result) :
    ∃ behind, result.2 = behind ++ blanks ∧
      readString quote start' text = .ok (result.1, behind) := by
  induction text using readString.induct quote generalizing result with
  | case1 => exact absurd h (readString_blanks hBlanks hQuote start result)
  | case2 after =>
    rw [List.cons_append, readString_end] at h
    cases h
    exact ⟨after, rfl, readString_end quote start' after⟩
  | case3 hNotQuote =>
    cases blanks with
    | nil =>
      rw [readString.eq_def] at h
      simp [hNotQuote] at h
    | cons c blanks =>
      have hBlank := hBlanks c List.mem_cons_self
      rw [List.singleton_append, readString_escape hNotQuote,
        if_neg (ne_of_isBlank hBlank (by decide)), shortEscape?_of_isBlank hBlank] at h
      cases h
  | case4 after fault hFault hNotQuote =>
    rw [List.cons_append, List.cons_append, readString_escape hNotQuote, if_pos rfl] at h
    split at h
    · cases h
    · rename_i hEscape
      rw [(readEscape_of_append hBlanks hEscape).1] at hFault
      cases hFault
  | case5 after c hEscape hNotQuote ih =>
    rw [List.cons_append, List.cons_append, readString_escape hNotQuote, if_pos rfl] at h
    split at h
    · cases h
    · rename_i other hOther
      obtain ⟨hSame, hLength⟩ := readEscape_of_append hBlanks hOther
      cases hEscape.symm.trans hSame
      obtain ⟨tail, hTail, rfl⟩ := map_eq_ok h
      rw [List.drop_append_of_le_length hLength] at hTail
      obtain ⟨behind, hBehind, hRead⟩ := ih hTail
      refine ⟨behind, hBehind, ?_⟩
      rw [readString_escape hNotQuote, if_pos rfl, hEscape]
      exact congrArg (Except.map (putFirst c)) hRead
  | case6 e after hNotU hNone hNotQuote =>
    rw [List.cons_append, List.cons_append, readString_escape hNotQuote, if_neg hNotU, hNone] at h
    cases h
  | case7 e after hNotU c hShort hNotQuote ih =>
    rw [List.cons_append, List.cons_append, readString_escape hNotQuote, if_neg hNotU, hShort] at h
    obtain ⟨tail, hTail, rfl⟩ := map_eq_ok h
    obtain ⟨behind, hBehind, hRead⟩ := ih hTail
    refine ⟨behind, hBehind, ?_⟩
    rw [readString_escape hNotQuote, if_neg hNotU, hShort]
    exact congrArg (Except.map (putFirst c)) hRead
  | case8 c after hNotQuote hNotBackslash ih =>
    rw [List.cons_append, readString_plain hNotQuote hNotBackslash] at h
    obtain ⟨tail, hTail, rfl⟩ := map_eq_ok h
    obtain ⟨behind, hBehind, hRead⟩ := ih hTail
    refine ⟨behind, hBehind, ?_⟩
    rw [readString_plain hNotQuote hNotBackslash]
    exact congrArg (Except.map (putFirst c)) hRead

/-- What is read with blanks behind the text is read without them, and they are left over. -/
theorem readToken_of_append {c : Char} {rest after : List Char} {token : Token}
    (h : readToken c (rest ++ blanks) = .ok (token, after)) :
    ∃ behind, after = behind ++ blanks ∧ readToken c rest = .ok (token, behind) := by
  cases hQuote : isQuote c with
  | false =>
    have hAlike := alike_readToken (breaks_blanks hBlanks) hQuote rest
    rw [h] at hAlike
    obtain ⟨⟨other, behind⟩, hAlone, hResult⟩ := Option.map_eq_some_iff.mp hAlike.symm
    cases hResult
    exact ⟨behind, rfl, Except.eq_ok_of_toOption hAlone⟩
  | true =>
    rw [readToken_quote hQuote] at h ⊢
    obtain ⟨result, hString, hResult⟩ := map_eq_ok h
    cases hResult
    obtain ⟨behind, hBehind, hRead⟩ :=
      readString_of_append hBlanks (isBlank_of_isQuote hQuote) hString
    refine ⟨behind, hBehind, ?_⟩
    rw [hRead]
    rfl

theorem spells_of_append {text : List Char} {tokens : List Token}
    (h : Spells (text ++ blanks) tokens) : Spells text tokens := by
  generalize hWhole : text ++ blanks = whole at h
  induction h generalizing text with
  | blanks hText =>
    have hAll := List.dropWhile_eq_nil_iff.mp hText
    rw [← hWhole] at hAll
    exact .blanks (List.dropWhile_eq_nil_iff.mpr fun c hc => hAll c (List.mem_append_left _ hc))
  | @token whole c rest token after tokens hText hToken _ ih =>
    rw [← hWhole, List.dropWhile_append, List.dropWhile_eq_nil_iff.mpr hBlanks] at hText
    cases hDrop : text.dropWhile isBlank with
    | nil =>
      rw [hDrop] at hText
      cases hText
    | cons d others =>
      rw [hDrop] at hText
      cases hText
      obtain ⟨behind, rfl, hRead⟩ := readToken_of_append hBlanks hToken
      exact .token hDrop hRead (ih rfl)

omit hBlanks in
theorem spells_trimBlanks {text : List Char} {tokens : List Token} (h : Spells text tokens) :
    Spells (trimBlanks text) tokens := by
  have hStart : Spells (trimStart text) tokens :=
    h.of_dropWhile_eq (List.dropWhile_eq_self_iff.mpr (List.dropWhile_get_zero_not isBlank text))
  have hEnd : trimStart text =
      trimBlanks text ++ ((trimStart text).reverse.takeWhile isBlank).reverse := by
    rw [trimBlanks, trimEnd, ← List.reverse_append, List.takeWhile_append_dropWhile,
      List.reverse_reverse]
  rw [hEnd] at hStart
  refine spells_of_append ?_ hStart
  intro c hc
  exact List.all_eq_true.mp List.all_takeWhile c (List.mem_reverse.mp hc)

end Lexer

theorem Expr.ofText_trim {text : String} {e : Expr} (h : Expr.ofText text = .ok e) :
    Expr.ofText (Text.trim text) = .ok e := by
  obtain ⟨tokens, hSpells, hDerives⟩ := (Expr.ofText_eq_ok_iff text e).mp h
  refine (Expr.ofText_eq_ok_iff _ e).mpr ⟨tokens, ?_, hDerives⟩
  rw [Text.toList_trim]
  exact Lexer.spells_trimBlanks hSpells

end ParamTree
