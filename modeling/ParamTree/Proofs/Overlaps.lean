import ParamTree.Proofs.LiteralTokens

/-!
# Tokens that overlap themselves

A token that begins within an unclosed one is passed over, and with it the marker that it opens.
That happens only if the opening token overlaps itself and if what sticks out of the overlap leaves
a quote or a bracket open. Main statement: `literalOpenings_unclosed_iff`, which says for which
delimiters no marker is passed over.
-/

namespace ParamTree

namespace Segment

/-! ### What sticks out of an overlap -/

/-- Reading the piece in search of a closing token meets one in it, or leaves the search as it was:
outside of quotes and of brackets. -/
def settles (closing : List Char) (depth : Nat) (quoting : Quoting) : List Char → Bool
  | [] => quoting = .plain ∧ depth = 0
  | c :: rest =>
    if quoting = .plain ∧ depth = 0 ∧ closing.isPrefixOf (c :: rest) then
      true
    else
      settles closing (if quoting = .plain then depthAfter depth c else depth) (quoting.next c) rest

theorem findClose?_eq_none_of_settles {closing piece inside : List Char} {depth : Nat}
    {quoting : Quoting} (hSettles : settles closing depth quoting piece = true)
    (h : findClose? closing depth quoting (piece ++ inside) = none) :
    findClose? closing 0 .plain inside = none := by
  induction piece generalizing depth quoting with
  | nil =>
    obtain ⟨rfl, rfl⟩ := of_decide_eq_true hSettles
    exact h
  | cons c rest ih =>
    rw [List.cons_append, findClose?] at h
    rw [settles] at hSettles
    split at h
    · cases h
    · rename_i hOpen
      rw [if_neg] at hSettles
      · exact ih hSettles (Option.map_eq_none_iff.mp h)
      · rintro ⟨hPlain, hZero, hPrefix⟩
        have hLonger : closing <+: c :: rest ++ inside :=
          (List.isPrefixOf_iff_prefix.mp hPrefix).trans (List.prefix_append _ _)
        exact hOpen ⟨hPlain, hZero, List.isPrefixOf_iff_prefix.mpr hLonger⟩

theorem findClose?_eq_none_of_short {closing text : List Char} (h : text.length < closing.length)
    (depth : Nat) (quoting : Quoting) : findClose? closing depth quoting text = none := by
  induction text generalizing depth quoting with
  | nil => rfl
  | cons c rest ih =>
    rw [findClose?, if_neg]
    · exact Option.map_eq_none_iff.mpr (ih (Nat.lt_of_succ_lt h) _ _)
    · rintro ⟨-, -, hPrefix⟩
      exact absurd (List.isPrefixOf_iff_prefix.mp hPrefix).length_le (Nat.not_le.mpr h)

/-- A character that the search passes over, but for the end of a closing token. -/
structure Fills (filler : Char) (closing : List Char) : Prop where
  not_quote : isQuote filler = false
  ne_backslash : filler ≠ '\\'
  depth_eq : ∀ depth, depthAfter depth filler = depth
  not_last : ∀ front, closing ≠ front ++ [filler]

theorem exists_fills (closing : List Char) : ∃ filler, Fills filler closing := by
  by_cases hLast : ∃ front, closing = front ++ ['a']
  · obtain ⟨front, rfl⟩ := hLast
    refine ⟨'b', rfl, by decide, fun _ => rfl, ?_⟩
    intro other hOther
    cases (List.append_inj' hOther rfl).2
  · exact ⟨'a', rfl, by decide, fun _ => rfl, fun front hFront => hLast ⟨front, hFront⟩⟩

/-- The search stands in no string that the character would end. -/
def Apart (c : Char) (quoting : Quoting) : Prop :=
  quoting ≠ .quoted c ∧ quoting ≠ .escaped c

theorem Apart.next {c : Char} {quoting : Quoting} (h : Apart c quoting) (hQuote : isQuote c = false)
    {d : Char} : Apart c (quoting.next d) := by
  cases quoting with
  | plain =>
    rw [Quoting.next]
    split
    · rename_i hOther
      constructor
      · rintro ⟨rfl⟩
        rw [hQuote] at hOther
        cases hOther
      · nofun
    · exact ⟨nofun, nofun⟩
  | quoted quote =>
    rw [Quoting.next]
    split
    · refine ⟨nofun, ?_⟩
      rintro ⟨rfl⟩
      exact h.1 rfl
    · split
      · exact ⟨nofun, nofun⟩
      · exact h
  | escaped quote =>
    refine ⟨?_, nofun⟩
    rintro ⟨rfl⟩
    exact h.2 rfl

theorem Apart.eq_plain_of_next {c : Char} {closing : List Char} {quoting : Quoting}
    (h : Apart c quoting) (hFills : Fills c closing) (hPlain : quoting.next c = .plain) :
    quoting = .plain := by
  cases quoting with
  | plain => rfl
  | quoted quote =>
    have hNe : c ≠ quote := fun hQuote => h.1 (congrArg Quoting.quoted hQuote.symm)
    rw [Quoting.next, if_neg hFills.ne_backslash, if_neg hNe] at hPlain
    cases hPlain
  | escaped quote => cases hPlain

section Filler

variable {filler : Char} {closing : List Char} (hFills : Fills filler closing)
include hFills

/-- A closing token that reaches into the filler ends in front of it. -/
theorem prefix_of_prefix_filler {piece others : List Char}
    (h : closing <+: piece ++ (List.replicate closing.length filler ++ others)) :
    closing <+: piece := by
  obtain ⟨behind, hBehind⟩ := h
  obtain ⟨within, rfl, -⟩ | ⟨within, hClosing, hFiller⟩ := List.append_eq_append_iff.mp hBehind
  · exact List.prefix_append _ _
  · obtain rfl | ⟨front, last, rfl⟩ := within.eq_nil_or_concat'
    · rw [List.append_nil] at hClosing
      exact hClosing ▸ List.prefix_refl _
    · have hLength : (front ++ [last]).length ≤ (List.replicate closing.length filler).length := by
        have hSum := congrArg List.length hClosing
        rw [List.length_append] at hSum
        rw [List.length_replicate, hSum]
        exact Nat.le_add_left _ _
      have hPrefix : front ++ [last] <+: List.replicate closing.length filler :=
        List.prefix_of_prefix_length_le ⟨behind, hFiller.symm⟩ (List.prefix_append _ _) hLength
      obtain rfl : last = filler :=
        List.eq_of_mem_replicate (hPrefix.subset (List.mem_append_right _ List.mem_cons_self))
      rw [← List.append_assoc] at hClosing
      exact (hFills.not_last _ hClosing).elim

/-- The closing token is met behind the filler if nothing stands open in front of it. -/
theorem findClose?_filler_ne_none (hClosing : closing ≠ []) (count : Nat) :
    findClose? closing 0 .plain (List.replicate count filler ++ closing) ≠ none := by
  induction count with
  | zero =>
    obtain ⟨c, rest, rfl⟩ := List.exists_cons_of_ne_nil hClosing
    rw [List.replicate_zero, List.nil_append, findClose?, if_pos]
    · exact Option.some_ne_none _
    · exact ⟨rfl, rfl, List.isPrefixOf_iff_prefix.mpr (List.prefix_refl _)⟩
  | succ count ih =>
    rw [List.replicate_succ, List.cons_append, findClose?]
    split
    · exact Option.some_ne_none _
    · rw [if_pos rfl, hFills.depth_eq, Quoting.next, hFills.not_quote]
      simpa using ih

/-- Where something stands open at the filler, the closing token behind it is not met. -/
theorem findClose?_filler_of_open {depth : Nat} {quoting : Quoting} (hApart : Apart filler quoting)
    (hOpen : ¬(quoting = .plain ∧ depth = 0)) (count : Nat) :
    findClose? closing depth quoting (List.replicate count filler ++ closing) = none := by
  induction count generalizing quoting with
  | zero =>
    rw [List.replicate_zero, List.nil_append]
    cases closing with
    | nil => rfl
    | cons c rest =>
      rw [findClose?, if_neg fun hFound => hOpen ⟨hFound.1, hFound.2.1⟩]
      exact Option.map_eq_none_iff.mpr (findClose?_eq_none_of_short (Nat.lt_succ_self _) _ _)
  | succ count ih =>
    have hNext : ¬(quoting.next filler = .plain ∧ depth = 0) := by
      rintro ⟨hPlain, rfl⟩
      exact hOpen ⟨hApart.eq_plain_of_next hFills hPlain, rfl⟩
    have hRest := ih (hApart.next hFills.not_quote) hNext
    rw [List.replicate_succ, List.cons_append, findClose?,
      if_neg fun hFound => hOpen ⟨hFound.1, hFound.2.1⟩]
    apply Option.map_eq_none_iff.mpr
    rw [hFills.depth_eq, ite_self]
    exact hRest

theorem findClose?_filler_eq_none {piece : List Char} {depth : Nat} {quoting : Quoting}
    (hApart : Apart filler quoting) (h : settles closing depth quoting piece = false) :
    findClose? closing depth quoting
      (piece ++ (List.replicate closing.length filler ++ closing)) = none := by
  induction piece generalizing depth quoting with
  | nil => exact findClose?_filler_of_open hFills hApart (of_decide_eq_false h) _
  | cons c rest ih =>
    rw [settles] at h
    split at h
    · cases h
    · rename_i hOpen
      rw [List.cons_append, findClose?, if_neg]
      · exact Option.map_eq_none_iff.mpr (ih (hApart.next hFills.not_quote) h)
      · rintro ⟨hPlain, hZero, hPrefix⟩
        have hShorter : closing <+: c :: rest :=
          prefix_of_prefix_filler hFills (List.isPrefixOf_iff_prefix.mp hPrefix)
        exact hOpen ⟨hPlain, hZero, List.isPrefixOf_iff_prefix.mpr hShorter⟩

end Filler

end Segment

open Segment

/-- Wherever the opening token overlaps itself, moved on by a shift, the characters of the second
one that stick out leave the search for a closing token as it was, or end it. -/
def Delimiters.OverlapsSettle (delimiters : Delimiters) : Prop :=
  ∀ shift < delimiters.opening.toList.length, 0 < shift →
    delimiters.opening.toList.drop shift <+: delimiters.opening.toList →
    settles delimiters.closing.toList 0 .plain
      (delimiters.opening.toList.drop (delimiters.opening.toList.length - shift)) = true

instance : DecidablePred Delimiters.OverlapsSettle := fun delimiters =>
  inferInstanceAs (Decidable (∀ shift < delimiters.opening.toList.length, 0 < shift →
    delimiters.opening.toList.drop shift <+: delimiters.opening.toList →
    settles delimiters.closing.toList 0 .plain
      (delimiters.opening.toList.drop (delimiters.opening.toList.length - shift)) = true))

theorem Delimiters.OverlapsSettle.settles {delimiters : Delimiters} (h : delimiters.OverlapsSettle)
    {skipped shared tail : List Char} (hSkipped : skipped ≠ []) (hShared : shared ≠ [])
    (hOpening : delimiters.opening.toList = skipped ++ shared)
    (hTail : delimiters.opening.toList = shared ++ tail) :
    settles delimiters.closing.toList 0 .plain tail = true := by
  have hLength : delimiters.opening.toList.length = skipped.length + shared.length := by
    rw [hOpening, List.length_append]
  have hShift : skipped.length < delimiters.opening.toList.length := by
    rw [hLength]
    exact Nat.lt_add_of_pos_right (List.length_pos_iff.mpr hShared)
  have hDrop : delimiters.opening.toList.drop skipped.length = shared := by
    rw [hOpening, List.drop_left]
  have hSettles := h skipped.length hShift (List.length_pos_iff.mpr hSkipped)
    (hDrop ▸ ⟨tail, hTail.symm⟩)
  rwa [hLength, Nat.add_sub_cancel_left, hTail, List.drop_left] at hSettles

theorem Segment.findToken?_self {token : List Char} (hToken : token ≠ []) (rest : List Char) :
    findToken? token (token ++ rest) = some ([], rest) := by
  obtain ⟨c, others, rfl⟩ := List.exists_cons_of_ne_nil hToken
  rw [List.cons_append, findToken?, if_pos]
  · simp
  · exact List.isPrefixOf_iff_prefix.mpr (List.prefix_append (c :: others) rest)

/-- If what sticks out of an overlap does not settle, a text exists in which a marker is passed
over. -/
theorem Segment.exists_passed_over {delimiters : Delimiters} {skipped shared tail : List Char}
    (hShared : shared ≠ []) (hOpening : delimiters.opening.toList = skipped ++ shared)
    (hTail : delimiters.opening.toList = shared ++ tail) (hNotNil : tail ≠ [])
    (h : settles delimiters.closing.toList 0 .plain tail = false) :
    ∃ text inside,
      RestInLiteral (scan delimiters text) (delimiters.opening.toList ++ inside) ∧
      findClose? delimiters.closing.toList 0 .plain inside ≠ none := by
  have hClosing : delimiters.closing.toList ≠ [] := by
    intro hNil
    obtain ⟨c, rest, rfl⟩ := List.exists_cons_of_ne_nil hNotNil
    rw [hNil, Segment.settles, if_pos ⟨rfl, rfl, rfl⟩] at h
    cases h
  obtain ⟨filler, hFills⟩ := exists_fills delimiters.closing.toList
  generalize hInside : List.replicate delimiters.closing.toList.length filler ++
    delimiters.closing.toList = inside
  have hUnclosed : findClose? delimiters.closing.toList 0 .plain (tail ++ inside) = none := by
    rw [← hInside]
    exact findClose?_filler_eq_none hFills ⟨nofun, nofun⟩ h
  refine ⟨String.ofList (delimiters.opening.toList ++ (tail ++ inside)), inside, ?_, ?_⟩
  · rw [scan]
    split
    · rename_i hNil
      rw [hNil] at hOpening
      exact (hShared (List.append_eq_nil_iff.mp hOpening.symm).2).elim
    · rename_i first others hCons
      have hOpen := findToken?_self (List.cons_ne_nil first others) (tail ++ inside)
      rw [hCons] at hOpening hTail
      rw [String.toList_ofList, hCons, split_of_unclosed hOpen hUnclosed]
      have hRest : RestInLiteral (split first others delimiters.closing.toList (first :: others)
          (tail ++ inside)) (shared ++ (tail ++ inside)) :=
        restInLiteral_of_pending hOpening hShared
      rw [← List.append_assoc, ← hTail] at hRest
      exact hRest
  · rw [← hInside]
    exact findClose?_filler_ne_none hFills hClosing _

theorem Delimiters.overlapsSettle_of_unclosed {delimiters : Delimiters}
    (h : ∀ text inside,
      RestInLiteral (scan delimiters text) (delimiters.opening.toList ++ inside) →
        findClose? delimiters.closing.toList 0 .plain inside = none) :
    delimiters.OverlapsSettle := by
  rintro shift hShift hPos ⟨tail, hTail⟩
  have hLength := congrArg List.length hTail
  rw [List.length_append, List.length_drop] at hLength
  have hDrop := (congrArg (List.drop (delimiters.opening.toList.drop shift).length)
    hTail).symm.trans List.drop_left
  rw [List.length_drop] at hDrop
  rw [hDrop]
  by_contra hSettles
  have hShared : delimiters.opening.toList.drop shift ≠ [] := by
    rw [← List.length_pos_iff, List.length_drop]
    omega
  have hNotNil : tail ≠ [] := by
    rw [← List.length_pos_iff]
    omega
  obtain ⟨text, inside, hRest, hClosed⟩ := exists_passed_over hShared
    (List.take_append_drop shift _).symm hTail.symm hNotNil (Bool.eq_false_iff.mpr hSettles)
  exact hClosed (h text inside hRest)

/-- An opening token in literal text is not closed, unless it begins within another one that is not.
No text has such tokens that are closed if and only if the overlaps of the token settle. -/
theorem Segment.literalOpenings_unclosed_iff (delimiters : Delimiters)
    (hOpening : delimiters.opening ≠ "") :
    (∀ text inside, RestInLiteral (scan delimiters text) (delimiters.opening.toList ++ inside) →
      Excused delimiters.opening.toList delimiters.closing.toList (scan delimiters text) inside) ∧
    ((∀ text inside, RestInLiteral (scan delimiters text) (delimiters.opening.toList ++ inside) →
      findClose? delimiters.closing.toList 0 .plain inside = none) ↔
        delimiters.OverlapsSettle) := by
  refine ⟨fun _ _ => excused_of_restInLiteral hOpening, Delimiters.overlapsSettle_of_unclosed, ?_⟩
  intro hSettles text inside hRest
  cases excused_of_restInLiteral hOpening hRest with
  | unclosed hClose => exact hClose
  | overlapped hSkipped hShared hPlace hTail _ hClose =>
    exact findClose?_eq_none_of_settles (hSettles.settles hSkipped hShared hPlace hTail) hClose

/-- The tokens around expressions have no overlaps. -/
theorem Segment.literalOpenings_unclosed_of_expression :
    Dialect.expression.delimiters.opening ≠ "" ∧
    ∀ text inside,
      RestInLiteral (scan Dialect.expression.delimiters text)
        (Dialect.expression.delimiters.opening.toList ++ inside) →
      findClose? Dialect.expression.delimiters.closing.toList 0 .plain inside = none :=
  ⟨by decide, (literalOpenings_unclosed_iff _ (by decide)).2.mpr (by decide)⟩

/-- The tokens around pipelines have an overlap that does not settle: the marker that begins with the
second of three braces is passed over. -/
theorem Segment.marker_passed_over_in_braces :
    scan Dialect.pipeline.delimiters "\x7b\x7b\x7ba\x7d\x7d" =
      [.literal "\x7b\x7b\x7ba\x7d\x7d"] ∧
    RestInLiteral (scan Dialect.pipeline.delimiters "\x7b\x7b\x7ba\x7d\x7d")
      (Dialect.pipeline.delimiters.opening.toList ++ ['a', '\x7d', '\x7d']) ∧
    findClose? Dialect.pipeline.delimiters.closing.toList 0 .plain ['a', '\x7d', '\x7d'] =
      some (['a'], []) ∧
    ¬Dialect.pipeline.delimiters.OverlapsSettle := by
  have hScan : scan Dialect.pipeline.delimiters "\x7b\x7b\x7ba\x7d\x7d" =
      [.literal "\x7b\x7b\x7ba\x7d\x7d"] := by
    change split '{' ['{'] ['}', '}'] [] ['{', '{', '{', 'a', '}', '}'] = _
    rw [split_of_unclosed rfl rfl, split_of_none rfl]
    rfl
  have hPlace : "\x7b\x7b\x7ba\x7d\x7d".toList = ['{'] ++ ['{', '{', 'a', '}', '}'] := rfl
  refine ⟨hScan, ?_, rfl, by decide⟩
  rw [hScan]
  exact .here [] hPlace (List.cons_ne_nil _ _)

end ParamTree
