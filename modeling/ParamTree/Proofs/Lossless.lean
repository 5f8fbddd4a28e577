import Mathlib.Data.List.Chain
import ParamTree.Template.Segment

/-!
# Segments put together again

A text is cut at its markers: every marker has the tokens at its ends, and what stands between two
markers is one literal piece or nothing. Main statement: `scan_lossless`.
-/

namespace ParamTree.Segment

/-- The text that the segments are cut from. -/
def joined (segments : List Segment) : List Char :=
  segments.flatMap fun segment => segment.raw.toList

@[simp] theorem joined_nil : joined [] = [] := rfl

@[simp] theorem joined_cons (segment : Segment) (segments : List Segment) :
    joined (segment :: segments) = segment.raw.toList ++ joined segments := rfl

@[simp] theorem joined_append (segments others : List Segment) :
    joined (segments ++ others) = joined segments ++ joined others :=
  List.flatMap_append

@[simp] theorem joined_ofLiteral (piece : List Char) : joined (ofLiteral piece) = piece := by
  rw [ofLiteral]
  split
  · rename_i hEmpty
    exact hEmpty.symm
  · simp [raw]

theorem mem_ofLiteral {piece : List Char} {segment : Segment} :
    segment ∈ ofLiteral piece ↔ piece ≠ [] ∧ segment = .literal (String.ofList piece) := by
  rw [ofLiteral]
  split <;> simp [*]

/-- The text is cut into the segments, at markers between the tokens. -/
inductive Cuts (opening closing : List Char) : List Char → List Segment → Prop where
  | last (piece : List Char) : Cuts opening closing piece (ofLiteral piece)
  | marker (piece body : List Char) {after : List Char} {segments : List Segment} :
    Cuts opening closing after segments →
    Cuts opening closing (piece ++ (opening ++ body ++ closing) ++ after)
      (ofLiteral piece ++
        .marker (String.ofList (opening ++ body ++ closing)) (String.ofList body) :: segments)

theorem cuts_split (first : Char) (others closing pending text : List Char) :
    Cuts (first :: others) closing (pending ++ text) (split first others closing pending text) := by
  induction pending, text using split.induct first others closing with
  | case1 pending text hOpen =>
    rw [split_of_none hOpen]
    exact .last _
  | case2 pending text before inside hOpen hClose ih =>
    rw [split_of_unclosed hOpen hClose, eq_of_findToken? hOpen]
    simpa using ih
  | case3 pending text before inside hOpen body after hClose ih =>
    have hText : pending ++ text =
        pending ++ before ++ (first :: others ++ body ++ closing) ++ after := by
      rw [eq_of_findToken? hOpen, eq_of_findClose? hClose]
      simp
    rw [split_of_some hOpen hClose, hText]
    exact .marker _ body ih

theorem cuts_scan (delimiters : Delimiters) (text : String) :
    Cuts delimiters.opening.toList delimiters.closing.toList text.toList
      (scan delimiters text) := by
  rw [scan]
  split
  · exact .last _
  · rename_i first others hOpening
    rw [hOpening]
    exact cuts_split first others _ [] _

namespace Cuts

variable {opening closing text : List Char} {segments : List Segment}

theorem joined_eq (h : Cuts opening closing text segments) : joined segments = text := by
  induction h with
  | last piece => exact joined_ofLiteral piece
  | marker piece body _ ih => simp [raw, ih]

theorem raw_eq (h : Cuts opening closing text segments) {raw body : String}
    (hMem : .marker raw body ∈ segments) : raw.toList = opening ++ body.toList ++ closing := by
  have hLiteral : ∀ piece, Segment.marker raw body ∉ ofLiteral piece := by
    simp [mem_ofLiteral]
  induction h with
  | last piece => exact (hLiteral piece hMem).elim
  | marker piece found _ ih =>
    obtain hBefore | hFound := List.mem_append.mp hMem
    · exact (hLiteral piece hBefore).elim
    · obtain hFound | hAfter := List.mem_cons.mp hFound
      · cases hFound
        simp
      · exact ih hAfter

theorem ne_empty_literal (h : Cuts opening closing text segments) :
    .literal "" ∉ segments := by
  have hLiteral : ∀ piece, Segment.literal "" ∉ ofLiteral piece := by
    intro piece hMem
    obtain ⟨hPiece, hEmpty⟩ := mem_ofLiteral.mp hMem
    exact hPiece (by simpa using congrArg String.toList (Segment.literal.inj hEmpty).symm)
  induction h with
  | last piece => exact hLiteral piece
  | marker piece body _ ih =>
    simp only [List.mem_append, List.mem_cons, reduceCtorEq, false_or, not_or]
    exact ⟨hLiteral piece, ih⟩

theorem isChain (h : Cuts opening closing text segments) :
    segments.IsChain fun left right => left.isMarker ∨ right.isMarker := by
  have hLiteral : ∀ piece, (ofLiteral piece).IsChain
      fun left right => left.isMarker ∨ right.isMarker := by
    intro piece
    rw [ofLiteral]
    split
    · exact .nil
    · exact .singleton _
  induction h with
  | last piece => exact hLiteral piece
  | marker piece body _ ih =>
    refine List.isChain_append.mpr ⟨hLiteral piece, ih.cons fun _ _ => .inl rfl, ?_⟩
    intro left _ right hRight
    obtain rfl := Option.some.inj hRight
    exact .inr rfl

end Cuts

theorem join_scan (delimiters : Delimiters) (text : String) :
    String.join ((scan delimiters text).map raw) = text := by
  rw [← String.toList_inj, String.toList_join, List.flatMap_map]
  exact (cuts_scan delimiters text).joined_eq

/-- The segments of a text make up the text, in order and with nothing in between. No piece of
literal text is empty or goes on in another one. -/
theorem scan_lossless (delimiters : Delimiters) (text : String) :
    String.join ((scan delimiters text).map raw) = text ∧
    (∀ raw body, .marker raw body ∈ scan delimiters text →
      raw = delimiters.opening ++ body ++ delimiters.closing) ∧
    .literal "" ∉ scan delimiters text ∧
    (scan delimiters text).IsChain fun left right => left.isMarker ∨ right.isMarker := by
  have hCuts := cuts_scan delimiters text
  refine ⟨join_scan delimiters text, ?_, hCuts.ne_empty_literal, hCuts.isChain⟩
  intro raw body hMem
  rw [← String.toList_inj, hCuts.raw_eq hMem]
  simp

end ParamTree.Segment
