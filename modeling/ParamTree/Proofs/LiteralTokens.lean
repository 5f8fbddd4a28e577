import ParamTree.Proofs.Lossless

/-!
# Opening tokens in literal text

An opening token that is never closed is literal text, and the search for the next one goes on
behind it. So a token that stands in literal text is not closed either, or it begins within one that
is not: then the search has passed over it. Main statement: `excused_of_restInLiteral`.
-/

namespace ParamTree.Segment

/-- What remains of a text from a place within one of its literal pieces on. -/
inductive RestInLiteral : List Segment → List Char → Prop where
  | here {text : String} {skipped remaining : List Char} (others : List Segment) :
    text.toList = skipped ++ remaining → remaining ≠ [] →
    RestInLiteral (.literal text :: others) (remaining ++ joined others)
  | later {segment : Segment} {others : List Segment} {rest : List Char} :
    RestInLiteral others rest → RestInLiteral (segment :: others) rest

theorem restInLiteral_marker_iff {raw body : String} {others : List Segment} {rest : List Char} :
    RestInLiteral (.marker raw body :: others) rest ↔ RestInLiteral others rest := by
  constructor
  · rintro (_ | hOthers)
    exact hOthers
  · exact .later

theorem restInLiteral_ofLiteral_iff {piece rest : List Char} {others : List Segment} :
    RestInLiteral (ofLiteral piece ++ others) rest ↔
      (∃ skipped remaining, piece = skipped ++ remaining ∧ remaining ≠ [] ∧
        rest = remaining ++ joined others) ∨ RestInLiteral others rest := by
  rw [ofLiteral]
  split
  · rename_i hEmpty
    subst hEmpty
    constructor
    · exact .inr
    · rintro (⟨skipped, remaining, hPiece, hRemaining, -⟩ | hOthers)
      · exact (hRemaining (List.append_eq_nil_iff.mp hPiece.symm).2).elim
      · exact hOthers
  · constructor
    · rintro (⟨_, hText, hRemaining⟩ | hOthers)
      · rw [String.toList_ofList] at hText
        exact .inl ⟨_, _, hText, hRemaining, rfl⟩
      · exact .inr hOthers
    · rintro (⟨skipped, remaining, rfl, hRemaining, rfl⟩ | hOthers)
      · exact .here others String.toList_ofList hRemaining
      · exact .later hOthers

/-! ### The first place of a token -/

theorem not_prefix_of_findToken? {token text remaining inside : List Char} (skipped : List Char)
    (h : findToken? token text = some (skipped ++ remaining, inside))
    (hRemaining : remaining ≠ []) :
    ¬token <+: remaining ++ (token ++ inside) := by
  induction text generalizing skipped with
  | nil => cases h
  | cons c rest ih =>
    have hText := eq_of_findToken? h
    rw [findToken?] at h
    split at h
    · have hNil := congrArg Prod.fst (Option.some.inj h)
      exact (hRemaining (List.append_eq_nil_iff.mp hNil.symm).2).elim
    · rename_i hFirst
      obtain ⟨⟨before, after⟩, hRest, hPieces⟩ := Option.map_eq_some_iff.mp h
      cases skipped with
      | nil =>
        rw [List.nil_append, List.append_assoc] at hText
        rw [← hText]
        exact fun hPrefix => hFirst (List.isPrefixOf_iff_prefix.mpr hPrefix)
      | cons d skipped =>
        cases hPieces
        exact ih skipped hRest

theorem not_prefix_of_findToken?_none {token remaining : List Char} (skipped : List Char)
    (h : findToken? token (skipped ++ remaining) = none) (hRemaining : remaining ≠ []) :
    ¬token <+: remaining := by
  induction skipped with
  | nil =>
    obtain ⟨c, rest, rfl⟩ := List.exists_cons_of_ne_nil hRemaining
    rw [List.nil_append, findToken?] at h
    split at h
    · cases h
    · rename_i hFirst
      exact fun hPrefix => hFirst (List.isPrefixOf_iff_prefix.mpr hPrefix)
  | cons c skipped ih =>
    rw [List.cons_append, findToken?] at h
    split at h
    · cases h
    · exact ih (Option.map_eq_none_iff.mp h)

/-- A token that begins before the first one in a text begins before the text. -/
theorem begins_before_text {token text before inside pending skipped remaining rest : List Char}
    (hOpen : findToken? token text = some (before, inside))
    (hPlace : pending ++ before = skipped ++ remaining) (hRemaining : remaining ≠ [])
    (hToken : remaining ++ (token ++ inside) = token ++ rest) :
    ∃ earlier, pending = skipped ++ earlier ∧ earlier ≠ [] ∧ earlier ++ text = token ++ rest := by
  obtain ⟨within, rfl, hBefore⟩ | ⟨earlier, rfl, rfl⟩ := List.append_eq_append_iff.mp hPlace
  · rw [hBefore] at hOpen
    exact (not_prefix_of_findToken? _ hOpen hRemaining ⟨rest, hToken.symm⟩).elim
  · refine ⟨earlier, rfl, ?_, ?_⟩
    · rintro rfl
      exact not_prefix_of_findToken? [] hOpen hRemaining ⟨rest, hToken.symm⟩
    · rw [← hToken, eq_of_findToken? hOpen]
      simp

/-- A token in a text whose own part holds none begins before that part. -/
theorem begins_before_unmarked {token text pending skipped remaining rest : List Char}
    (hOpen : findToken? token text = none) (hPlace : pending ++ text = skipped ++ remaining)
    (hRemaining : remaining ≠ []) (hToken : remaining = token ++ rest) :
    ∃ earlier, pending = skipped ++ earlier ∧ earlier ≠ [] ∧ earlier ++ text = token ++ rest := by
  obtain ⟨within, -, rfl⟩ | ⟨earlier, rfl, rfl⟩ := List.append_eq_append_iff.mp hPlace
  · exact (not_prefix_of_findToken?_none _ hOpen hRemaining ⟨rest, hToken.symm⟩).elim
  · refine ⟨earlier, rfl, ?_, hToken⟩
    rintro rfl
    exact not_prefix_of_findToken?_none [] hOpen hRemaining ⟨rest, hToken.symm⟩

/-! ### Tokens in literal text -/

/-- The opening token before `inside` is not closed, or it begins within one that is not. -/
inductive Excused (opening closing : List Char) (segments : List Segment) (inside : List Char) :
    Prop where
  | unclosed : findClose? closing 0 .plain inside = none → Excused opening closing segments inside
  | overlapped {skipped shared tail : List Char} : skipped ≠ [] → shared ≠ [] →
    opening = skipped ++ shared → opening = shared ++ tail →
    RestInLiteral segments (opening ++ (tail ++ inside)) →
    findClose? closing 0 .plain (tail ++ inside) = none → Excused opening closing segments inside

theorem Excused.later {opening closing inside : List Char} {segments others : List Segment}
    (h : Excused opening closing others inside)
    (hOthers : ∀ rest, RestInLiteral others rest → RestInLiteral segments rest) :
    Excused opening closing segments inside := by
  cases h with
  | unclosed hClose => exact .unclosed hClose
  | overlapped hSkipped hShared hOpening hTail hRest hClose =>
    exact .overlapped hSkipped hShared hOpening hTail (hOthers _ hRest) hClose

section Split

variable {first : Char} {others closing : List Char}

theorem joined_marker_split {inside body after : List Char}
    (h : findClose? closing 0 .plain inside = some (body, after)) :
    joined (.marker (String.ofList (first :: others ++ body ++ closing)) (String.ofList body) ::
      split first others closing [] after) = first :: others ++ inside := by
  rw [joined_cons, (cuts_split first others closing [] after).joined_eq, eq_of_findClose? h]
  simp [raw]

/-- The piece in front of the text ends up in the first literal piece. -/
theorem restInLiteral_of_pending {pending text skipped remaining : List Char}
    (h : pending = skipped ++ remaining) (hRemaining : remaining ≠ []) :
    RestInLiteral (split first others closing pending text) (remaining ++ text) := by
  induction pending, text using split.induct first others closing generalizing remaining with
  | case1 pending text hOpen =>
    rw [split_of_none hOpen, ← List.append_nil (ofLiteral _)]
    apply restInLiteral_ofLiteral_iff.mpr
    refine .inl ⟨skipped, remaining ++ text, ?_, ?_, ?_⟩
    · rw [h, List.append_assoc]
    · simp [hRemaining]
    · simp
  | case2 pending text before inside hOpen hClose ih =>
    rw [split_of_unclosed hOpen hClose, eq_of_findToken? hOpen]
    have hPending : pending ++ before ++ first :: others =
        skipped ++ (remaining ++ before ++ first :: others) := by
      simp [h]
    have hRest := ih hPending (by simp)
    simpa using hRest
  | case3 pending text before inside hOpen body after hClose =>
    rw [split_of_some hOpen hClose]
    apply restInLiteral_ofLiteral_iff.mpr
    refine .inl ⟨skipped, remaining ++ before, ?_, ?_, ?_⟩
    · rw [h, List.append_assoc]
    · simp [hRemaining]
    · rw [joined_marker_split hClose, eq_of_findToken? hOpen]
      simp

/-- A token that overlaps the unclosed one in front of `inside`, or is this one itself. -/
theorem excused_of_unclosed {pending inside remaining rest : List Char} (skipped : List Char)
    (hClose : findClose? closing 0 .plain inside = none)
    (hPlace : first :: others = skipped ++ remaining) (hRemaining : remaining ≠ [])
    (hToken : remaining ++ inside = first :: others ++ rest) :
    Excused (first :: others) closing
      (split first others closing (pending ++ first :: others) inside) rest := by
  have hLength : remaining.length ≤ (first :: others).length := by
    rw [hPlace, List.length_append]
    omega
  obtain ⟨tail, hTail⟩ : remaining <+: first :: others :=
    List.prefix_of_prefix_length_le ⟨inside, hToken⟩ (List.prefix_append _ rest) hLength
  have hInside : inside = tail ++ rest := by
    rw [← hTail, List.append_assoc] at hToken
    exact List.append_cancel_left hToken
  subst hInside
  by_cases hSkipped : skipped = []
  · subst hSkipped
    rw [List.nil_append] at hPlace
    obtain rfl : tail = [] :=
      List.append_cancel_left (hTail.trans (hPlace.trans (List.append_nil _).symm))
    exact .unclosed hClose
  · apply Excused.overlapped hSkipped hRemaining hPlace hTail.symm _ hClose
    exact restInLiteral_of_pending rfl (List.cons_ne_nil _ _)

theorem excused_of_restInLiteral_split {pending text rest : List Char}
    (hPending : ∀ {skipped remaining rest}, pending = skipped ++ remaining → remaining ≠ [] →
      remaining ++ text = first :: others ++ rest →
      Excused (first :: others) closing (split first others closing pending text) rest)
    (h : RestInLiteral (split first others closing pending text) (first :: others ++ rest)) :
    Excused (first :: others) closing (split first others closing pending text) rest := by
  induction pending, text using split.induct first others closing with
  | case1 pending text hOpen =>
    have hPieces := h
    rw [split_of_none hOpen, ← List.append_nil (ofLiteral _)] at hPieces
    obtain ⟨skipped, remaining, hPlace, hRemaining, hToken⟩ | hNone :=
      restInLiteral_ofLiteral_iff.mp hPieces
    · rw [joined_nil, List.append_nil] at hToken
      obtain ⟨earlier, hEarlier, hNe, hText⟩ :=
        begins_before_unmarked hOpen hPlace hRemaining hToken.symm
      exact hPending hEarlier hNe hText
    · cases hNone
  | case2 pending text before inside hOpen hClose ih =>
    rw [split_of_unclosed hOpen hClose] at h hPending ⊢
    refine ih ?_ h
    intro skipped remaining rest hPlace hRemaining hToken
    obtain ⟨within, hSkipped, hWithin⟩ | ⟨within, hBefore, rfl⟩ :=
      List.append_eq_append_iff.mp hPlace
    · exact excused_of_unclosed _ hClose hWithin hRemaining hToken
    · by_cases hNil : within = []
      · subst hNil
        exact excused_of_unclosed [] hClose rfl hRemaining hToken
      · rw [List.append_assoc] at hToken
        obtain ⟨earlier, hEarlier, hNe, hText⟩ :=
          begins_before_text hOpen hBefore hNil hToken
        exact hPending hEarlier hNe hText
  | case3 pending text before inside hOpen body after hClose ih =>
    have hPieces := h
    rw [split_of_some hOpen hClose] at hPieces
    obtain ⟨skipped, remaining, hPlace, hRemaining, hToken⟩ | hMarker :=
      restInLiteral_ofLiteral_iff.mp hPieces
    · rw [joined_marker_split hClose] at hToken
      obtain ⟨earlier, hEarlier, hNe, hText⟩ :=
        begins_before_text hOpen hPlace hRemaining hToken.symm
      exact hPending hEarlier hNe hText
    · have hAfter := ih (fun hNil hNe => (hNe (List.append_eq_nil_iff.mp hNil.symm).2).elim)
        (restInLiteral_marker_iff.mp hMarker)
      apply hAfter.later
      intro rest hRest
      rw [split_of_some hOpen hClose]
      exact restInLiteral_ofLiteral_iff.mpr (.inr (.later hRest))

end Split

/-- Opening tokens in literal text are unclosed, but for those that begin within another one. -/
theorem excused_of_restInLiteral {delimiters : Delimiters} (hOpening : delimiters.opening ≠ "")
    {text : String} {inside : List Char}
    (h : RestInLiteral (scan delimiters text) (delimiters.opening.toList ++ inside)) :
    Excused delimiters.opening.toList delimiters.closing.toList (scan delimiters text) inside := by
  rw [scan] at h ⊢
  split at h
  · rename_i hNil
    exact (hOpening (String.toList_eq_nil_iff.mp hNil)).elim
  · rename_i first others hCons
    rw [hCons] at h ⊢
    apply excused_of_restInLiteral_split _ h
    intro skipped remaining rest hNil hRemaining
    exact (hRemaining (List.append_eq_nil_iff.mp hNil.symm).2).elim

end ParamTree.Segment
