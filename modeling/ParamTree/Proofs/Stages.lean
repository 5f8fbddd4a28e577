import ParamTree.Proofs.Trimming
import ParamTree.Template.Pipeline

/-!
# Stages of a pipeline

A pipeline that is put together from a head and the names of filters, with bars between them, is
taken apart at these bars, and at no bar within the head. Main statement: `stages_pipelineText`.
-/

namespace ParamTree

namespace Text

theorem dropWhile_blanks_append {lead text : List Char} (hLead : ∀ c ∈ lead, isBlank c = true)
    (hText : ∀ c ∈ text.head?, isBlank c = false) : (lead ++ text).dropWhile isBlank = text := by
  rw [List.dropWhile_append_of_pos hLead]
  cases text with
  | nil => rfl
  | cons c rest =>
    have hFirst := hText c rfl
    exact List.dropWhile_cons_of_neg (by simp [hFirst])

theorem trimBlanks_append {lead core tail : List Char} (hLead : ∀ c ∈ lead, isBlank c = true)
    (hTail : ∀ c ∈ tail, isBlank c = true) (hCore : core ≠ [])
    (hFirst : ∀ c ∈ core.head?, isBlank c = false)
    (hLast : ∀ c ∈ core.getLast?, isBlank c = false) :
    trimBlanks (lead ++ (core ++ tail)) = core := by
  have hStart : trimStart (lead ++ (core ++ tail)) = core ++ tail := by
    apply dropWhile_blanks_append hLead
    obtain ⟨c, others, rfl⟩ := List.exists_cons_of_ne_nil hCore
    exact hFirst
  have hEnd : (core ++ tail).reverse.dropWhile isBlank = core.reverse := by
    rw [List.reverse_append]
    apply dropWhile_blanks_append
    · exact fun c hc => hTail c (List.mem_reverse.mp hc)
    · rwa [List.head?_reverse]
  rw [trimBlanks, hStart, trimEnd, hEnd, List.reverse_reverse]

end Text

namespace Pipeline

open Lexer Text

/-- A head, and names of filters with bars between them. -/
def pipelineText (head : String) (names : List String) : String :=
  head ++ String.join (names.map (" | " ++ ·))

theorem stages_plain {front : List Char} (h : ∀ c ∈ front, c ≠ '|' ∧ isQuote c = false)
    (rest : List Char) :
    stages none (front ++ rest) = (front ++ (stages none rest).1, (stages none rest).2) := by
  induction front with
  | nil => rfl
  | cons c front ih =>
    obtain ⟨⟨hBar, hQuote⟩, hFront⟩ := List.forall_mem_cons.mp h
    rw [List.cons_append, stages, if_neg hBar, hQuote, if_neg nofun, ih hFront]
    rfl

theorem stages_unclosed {quote : Char} {content : List Char} (h : ∀ c ∈ content, c ≠ quote)
    (rest : List Char) :
    stages (some quote) (content ++ quote :: rest) =
      (content ++ quote :: (stages none rest).1, (stages none rest).2) := by
  induction content with
  | nil =>
    rw [List.nil_append, stages, if_pos rfl]
    rfl
  | cons c content ih =>
    obtain ⟨hFirst, hContent⟩ := List.forall_mem_cons.mp h
    rw [List.cons_append, stages, if_neg hFirst, ih hContent]
    rfl

/-- The text stays in one stage, at whose ends it has no blanks. -/
structure Solid (text : String) : Prop where
  unsplit (rest : List Char) :
    stages none (text.toList ++ rest) = (text.toList ++ (stages none rest).1, (stages none rest).2)
  nonempty : text.toList ≠ []
  first : ∀ c ∈ text.toList.head?, isBlank c = false
  last : ∀ c ∈ text.toList.getLast?, isBlank c = false

theorem ne_of_isNamePart {c d : Char} (h : isNamePart c = true) (hNot : isNamePart d = false) :
    c ≠ d := by
  rintro rfl
  rw [h] at hNot
  cases hNot

theorem isQuote_of_isNamePart {c : Char} (h : isNamePart c = true) : isQuote c = false := by
  simp [isQuote, ne_of_isNamePart h (show isNamePart '\'' = false by decide +kernel),
    ne_of_isNamePart h (show isNamePart '"' = false by decide +kernel)]

theorem Solid.identifier {name : String} (h : isIdentifier name.toList = true) : Solid name := by
  have hParts := isNamePart_of_isIdentifier h
  constructor
  case unsplit =>
    apply stages_plain
    exact fun c hc => ⟨ne_of_isNamePart (hParts c hc) (by decide +kernel),
      isQuote_of_isNamePart (hParts c hc)⟩
  case nonempty =>
    intro hEmpty
    rw [hEmpty] at h
    cases h
  case first => exact fun c hc => isBlank_of_isNamePart (hParts c (List.mem_of_mem_head? hc))
  case last => exact fun c hc => isBlank_of_isNamePart (hParts c (List.mem_of_mem_getLast? hc))

theorem Solid.quoted {text : String} {quote : Char} {content : List Char}
    (hQuote : isQuote quote = true) (h : ∀ c ∈ content, c ≠ quote)
    (hText : text.toList = quote :: (content ++ [quote])) : Solid text := by
  have hBlank := isBlank_of_isQuote hQuote
  have hBar : quote ≠ '|' := by
    rintro rfl
    cases hQuote
  constructor
  case unsplit =>
    intro rest
    rw [hText, List.cons_append, List.append_assoc, List.singleton_append, stages, if_neg hBar,
      if_pos hQuote, stages_unclosed h]
    simp [putFirst]
  case nonempty => simp [hText]
  case first => simpa [hText] using hBlank
  case last =>
    rw [hText, ← List.cons_append, List.getLast?_concat]
    rintro c ⟨⟩
    exact hBlank

theorem trimmed_solid {text : String} (h : Solid text) {lead tail : List Char}
    (hLead : ∀ c ∈ lead, isBlank c = true) (hTail : ∀ c ∈ tail, isBlank c = true) :
    trimmed (lead ++ (text.toList ++ tail)) = text := by
  rw [trimmed, trimBlanks_append hLead hTail h.nonempty h.first h.last, String.ofList_toList]

theorem stages_filters {names : List String} (h : ∀ name ∈ names, Solid name) :
    ∃ blanks others, stages none (String.join (names.map (" | " ++ ·))).toList = (blanks, others) ∧
      (∀ c ∈ blanks, isBlank c = true) ∧ others.map trimmed = names := by
  have hSpace : ∀ c ∈ [' '], isBlank c = true := List.forall_mem_singleton.mpr (by decide)
  have hPlain : ∀ c ∈ [' '], c ≠ '|' ∧ isQuote c = false :=
    List.forall_mem_singleton.mpr (by decide)
  induction names with
  | nil => exact ⟨[], [], rfl, nofun, rfl⟩
  | cons name names ih =>
    obtain ⟨hName, hNames⟩ := List.forall_mem_cons.mp h
    obtain ⟨blanks, others, hStages, hBlanks, hOthers⟩ := ih hNames
    have hText : (String.join ((name :: names).map (" | " ++ ·))).toList =
        [' '] ++ '|' ::
          ([' '] ++ (name.toList ++ (String.join (names.map (" | " ++ ·))).toList)) := by
      simp [String.join_cons]
    have hInner : stages none
        ([' '] ++ (name.toList ++ (String.join (names.map (" | " ++ ·))).toList)) =
          ([' '] ++ (name.toList ++ blanks), others) := by
      rw [stages_plain hPlain, hName.unsplit, hStages]
    refine ⟨[' '], ([' '] ++ (name.toList ++ blanks)) :: others, ?_, hSpace, ?_⟩
    · rw [hText, stages_plain hPlain, stages, if_pos rfl, hInner]
      rfl
    · rw [List.map_cons, trimmed_solid hName hSpace hBlanks, hOthers]

theorem stages_pipelineText {head : String} {names : List String} (hHead : Solid head)
    (hNames : ∀ name ∈ names, Solid name) :
    ∃ first others, stages none (pipelineText head names).toList = (first, others) ∧
      trimmed first = head ∧ others.map trimmed = names := by
  obtain ⟨blanks, others, hStages, hBlanks, hOthers⟩ := stages_filters hNames
  refine ⟨head.toList ++ blanks, others, ?_, ?_, hOthers⟩
  · rw [pipelineText, String.toList_append, hHead.unsplit, hStages]
  · have hNothing : ∀ c ∈ ([] : List Char), isBlank c = true := nofun
    have hFirst := trimmed_solid hHead hNothing hBlanks
    rwa [List.nil_append] at hFirst

end Pipeline

end ParamTree
