import Mathlib.Logic.Basic
import ParamTree.Template.Pipeline
import ParamTree.Template.Segment

/-!
# Quotes in the body of a pipeline

The search for the end of a marker and the splitting of its body into stages read the same quotes,
but a backslash counts in the search only. So they agree about a body unless a string in it has its
own quote behind a backslash. Main statement: `quotes_agree_iff`.
-/

namespace ParamTree

/-! ### The search for the end of a marker -/

namespace Quoting

/-- Where one stands behind a text. -/
def behind (quoting : Quoting) (text : List Char) : Quoting :=
  text.foldl next quoting

def quote? : Quoting → Option Char
  | plain => none
  | quoted quote => some quote
  | escaped quote => some quote

theorem quote?_eq_none_iff {quoting : Quoting} : quoting.quote? = none ↔ quoting = plain := by
  cases quoting <;> simp [quote?]

/-- Strings stand between quotes. -/
def IsSound (quoting : Quoting) : Prop :=
  ∀ quote, quoting.quote? = some quote → isQuote quote = true

theorem isSound_plain : plain.IsSound := nofun

theorem IsSound.next {quoting : Quoting} (h : quoting.IsSound) (c : Char) :
    (quoting.next c).IsSound := by
  cases quoting with
  | plain =>
    rw [Quoting.next]
    split
    · rename_i hQuote
      rintro _ ⟨rfl⟩
      exact hQuote
    · exact isSound_plain
  | quoted quote =>
    have hQuote := h quote rfl
    rw [Quoting.next]
    split
    · rintro _ ⟨rfl⟩
      exact hQuote
    · split
      · exact isSound_plain
      · exact h
  | escaped quote => exact h

end Quoting

namespace Segment

/-- Within the body that it finds, the search stands where the quotes in front leave it. -/
theorem findClose?_behind {closing front rest body after : List Char} {depth : Nat}
    {quoting : Quoting}
    (h : findClose? closing depth quoting (front ++ rest) = some (front ++ body, after)) :
    ∃ depth', findClose? closing depth' (quoting.behind front) rest = some (body, after) := by
  induction front generalizing depth quoting with
  | nil => exact ⟨depth, h⟩
  | cons c front ih =>
    rw [List.cons_append, findClose?] at h
    split at h
    · cases h
    · obtain ⟨⟨found, behind⟩, hFound, hPieces⟩ := Option.map_eq_some_iff.mp h
      cases hPieces
      exact ih hFound

theorem behind_eq_plain_of_findClose? {closing text body after : List Char} {depth : Nat}
    {quoting : Quoting} (h : findClose? closing depth quoting text = some (body, after)) :
    quoting.behind body = .plain := by
  have hText := eq_of_findClose? h
  rw [hText, List.append_assoc] at h
  obtain ⟨depth', hEnd⟩ := findClose?_behind (h.trans (by rw [List.append_nil]))
  cases hRest : closing ++ after with
  | nil =>
    rw [hRest] at hEnd
    cases hEnd
  | cons c rest =>
    rw [hRest, findClose?] at hEnd
    split at hEnd
    · rename_i hHere
      exact hHere.1
    · obtain ⟨_, -, hPieces⟩ := Option.map_eq_some_iff.mp hEnd
      cases hPieces

theorem exists_findClose?_of_mem_split {first : Char} {others closing pending text : List Char}
    {raw body : String} (h : .marker raw body ∈ split first others closing pending text) :
    ∃ inside after, findClose? closing 0 .plain inside = some (body.toList, after) := by
  have hLiteral : ∀ piece, Segment.marker raw body ∉ ofLiteral piece := by
    intro piece
    rw [ofLiteral]
    split <;> simp
  induction pending, text using Segment.split.induct first others closing with
  | case1 pending text hOpen =>
    rw [split_of_none hOpen] at h
    exact (hLiteral _ h).elim
  | case2 pending text before inside hOpen hClose ih =>
    rw [split_of_unclosed hOpen hClose] at h
    exact ih h
  | case3 pending text before inside hOpen found after hClose ih =>
    rw [split_of_some hOpen hClose] at h
    obtain hBefore | hFound := List.mem_append.mp h
    · exact (hLiteral _ hBefore).elim
    · obtain hHere | hAfter := List.mem_cons.mp hFound
      · cases hHere
        exact ⟨inside, after, by rw [String.toList_ofList, hClose]⟩
      · exact ih hAfter

/-- The body of a marker ends outside of quotes. -/
theorem behind_body_eq_plain {delimiters : Delimiters} {text raw body : String}
    (h : .marker raw body ∈ scan delimiters text) : Quoting.plain.behind body.toList = .plain := by
  rw [scan] at h
  split at h
  · rw [ofLiteral] at h
    split at h
    · cases h
    · cases List.mem_singleton.mp h
  · obtain ⟨inside, after, hClose⟩ := exists_findClose?_of_mem_split h
    exact behind_eq_plain_of_findClose? hClose

theorem scan_eq_marker {delimiters : Delimiters} {text body : String} {inside : List Char}
    (hOpening : delimiters.opening.toList ≠ [])
    (hOpen : findToken? delimiters.opening.toList text.toList = some ([], inside))
    (hClose : findClose? delimiters.closing.toList 0 .plain inside = some (body.toList, [])) :
    scan delimiters text = [.marker text body] := by
  obtain ⟨first, others, hToken⟩ := List.exists_cons_of_ne_nil hOpening
  rw [hToken] at hOpen
  have hText : text.toList = first :: others ++ inside := eq_of_findToken? hOpen
  have hInside : inside = body.toList ++ delimiters.closing.toList := by
    simpa using eq_of_findClose? hClose
  have hRaw :
      String.ofList (first :: others ++ body.toList ++ delimiters.closing.toList) = text := by
    rw [List.append_assoc, ← hInside, ← hText, String.ofList_toList]
  rw [scan, hToken]
  dsimp only
  rw [split_of_some hOpen hClose, split_of_none rfl, hRaw, String.ofList_toList]
  rfl

/-- What follows the text is in a string for the search that starts with the text. -/
def InQuotes (front : List Char) : Prop :=
  Quoting.plain.behind front ≠ .plain

end Segment

/-! ### The splitting into stages -/

namespace Pipeline

def nextQuote : Option Char → Char → Option Char
  | some quote, c => if c = quote then none else some quote
  | none, c => if isQuote c then some c else none

/-- The quote that is to be closed behind a text. -/
def openQuote (quote : Option Char) (text : List Char) : Option Char :=
  text.foldl nextQuote quote

/-- What follows the text is in a string for the splitting that starts with the text. -/
def InQuotes (front : List Char) : Prop :=
  openQuote none front ≠ none

def allStages (quote : Option Char) (text : List Char) : List (List Char) :=
  (stages quote text).1 :: (stages quote text).2

theorem allStages_bar (text : List Char) :
    allStages none ('|' :: text) = [] :: allStages none text := rfl

theorem stages_cons {quote : Option Char} {c : Char} (h : quote = none → c ≠ '|')
    (text : List Char) :
    stages quote (c :: text) = putFirst c (stages (nextQuote quote c) text) := by
  cases quote with
  | none => exact if_neg (h rfl)
  | some q => rfl

theorem allStages_cons {quote : Option Char} {c : Char} (h : quote = none → c ≠ '|')
    (text : List Char) : allStages quote (c :: text) =
      (c :: (stages (nextQuote quote c) text).1) :: (stages (nextQuote quote c) text).2 := by
  rw [allStages, stages_cons h]
  rfl

/-- A bar outside of strings, or another character. -/
theorem bar_or_other (quote : Option Char) (c : Char) :
    quote = none ∧ c = '|' ∨ (quote = none → c ≠ '|') := by
  by_cases hBar : c = '|'
  · cases quote with
    | none => exact .inl ⟨rfl, hBar⟩
    | some q => exact .inr nofun
  · exact .inr fun _ => hBar

theorem joined_putFirst (c : Char) (stage : List Char) (others : List (List Char)) :
    ['|'].intercalate ((c :: stage) :: others) = c :: ['|'].intercalate (stage :: others) := by
  cases others <;> simp

theorem joined_allStages (quote : Option Char) (text : List Char) :
    ['|'].intercalate (allStages quote text) = text := by
  induction text generalizing quote with
  | nil => rfl
  | cons c text ih =>
    obtain ⟨rfl, rfl⟩ | hOther := bar_or_other quote c
    · rw [allStages_bar, allStages, List.intercalate_cons_cons, ← allStages, ih]
      rfl
    · rw [allStages_cons hOther, joined_putFirst]
      exact congrArg (c :: ·) (ih _)

theorem allStages_append_bar {quote : Option Char} {front : List Char}
    (h : openQuote quote front = none) (back : List Char) :
    allStages quote (front ++ '|' :: back) = allStages quote front ++ allStages none back := by
  induction front generalizing quote with
  | nil =>
    obtain rfl : quote = none := h
    rfl
  | cons c front ih =>
    have hFront : allStages (nextQuote quote c) (front ++ '|' :: back) =
        allStages (nextQuote quote c) front ++ allStages none back := ih h
    obtain ⟨rfl, rfl⟩ | hOther := bar_or_other quote c
    · exact congrArg ([] :: ·) hFront
    · obtain ⟨hFirst, hOthers⟩ := List.cons.inj hFront
      rw [List.cons_append, allStages_cons hOther, allStages_cons hOther, hFirst, hOthers]
      rfl

/-- The bar between the texts separates stages: the first ones make up the text in front of it, and
the others the text behind it. -/
def Separates (front back : List Char) : Prop :=
  ∃ before after, allStages none (front ++ '|' :: back) = before ++ after ∧
    ['|'].intercalate before = front ∧ ['|'].intercalate after = back

theorem openQuote_eq_none_of_parts {quote : Option Char} {front back : List Char}
    {before after : List (List Char)}
    (h : allStages quote (front ++ '|' :: back) = before ++ after)
    (hBefore : ['|'].intercalate before = front) (hAfter : ['|'].intercalate after = back) :
    openQuote quote front = none := by
  induction front generalizing quote before with
  | nil =>
    cases before with
    | nil =>
      have hAll := joined_allStages quote ('|' :: back)
      rw [List.nil_append] at h
      rw [h, List.nil_append, hAfter] at hAll
      exact absurd (congrArg List.length hAll) (by simp)
    | cons stage others =>
      cases quote with
      | none => rfl
      | some q =>
        have hFirst : '|' :: (stages (nextQuote (some q) '|') back).1 = stage := (List.cons.inj h).1
        rw [← hFirst, joined_putFirst] at hBefore
        cases hBefore
  | cons c front ih =>
    cases before with
    | nil => cases hBefore
    | cons stage others =>
      obtain ⟨rfl, rfl⟩ | hOther := bar_or_other quote c
      · obtain ⟨rfl, hOthers⟩ := List.cons.inj h
        cases others with
        | nil => cases hBefore
        | cons next others =>
          rw [List.intercalate_cons_cons] at hBefore
          exact ih hOthers (List.cons.inj hBefore).2
      · rw [List.cons_append, allStages_cons hOther] at h
        obtain ⟨rfl, hOthers⟩ := List.cons.inj h
        rw [joined_putFirst] at hBefore
        have hParts : allStages (nextQuote quote c) (front ++ '|' :: back) =
            ((stages (nextQuote quote c) (front ++ '|' :: back)).1 :: others) ++ after :=
          congrArg (List.cons _) hOthers
        exact ih hParts (List.cons.inj hBefore).2

theorem separates_iff {front back : List Char} : Separates front back ↔ ¬InQuotes front := by
  rw [InQuotes, not_not]
  constructor
  · rintro ⟨before, after, hStages, hBefore, hAfter⟩
    exact openQuote_eq_none_of_parts hStages hBefore hAfter
  · intro h
    exact ⟨_, _, allStages_append_bar h back, joined_allStages _ _, joined_allStages _ _⟩

end Pipeline

/-! ### Where both agree -/

/-- Behind a backslash in a string stands the quote that would have ended the string. -/
def escapesOwnQuote (quoting : Quoting) : List Char → Bool
  | [] => false
  | c :: rest => quoting = .escaped c || escapesOwnQuote (quoting.next c) rest

open Pipeline (nextQuote openQuote)

theorem Quoting.IsSound.quote?_next {quoting : Quoting} (h : quoting.IsSound) {c : Char}
    (hNot : quoting ≠ .escaped c) : (quoting.next c).quote? = nextQuote quoting.quote? c := by
  cases quoting with
  | plain =>
    rw [Quoting.next, quote?, nextQuote]
    split <;> rfl
  | quoted quote =>
    have hBackslash : '\\' ≠ quote := by
      rintro rfl
      cases h _ rfl
    rw [Quoting.next, quote?, nextQuote]
    split
    · rename_i hEscape
      rw [hEscape, if_neg hBackslash]
      rfl
    · split <;> rfl
  | escaped quote =>
    have hOther : c ≠ quote := by
      rintro rfl
      exact hNot rfl
    exact (if_neg hOther).symm

theorem openQuote_eq {quoting : Quoting} (hSound : quoting.IsSound) {front rest : List Char}
    (h : escapesOwnQuote quoting (front ++ rest) = false) :
    openQuote quoting.quote? front = (quoting.behind front).quote? := by
  induction front generalizing quoting with
  | nil => rfl
  | cons c front ih =>
    rw [List.cons_append, escapesOwnQuote, Bool.or_eq_false_iff, decide_eq_false_iff_not] at h
    have hFront := ih (hSound.next c) h.2
    rw [hSound.quote?_next h.1] at hFront
    exact hFront

/-- Behind an escaped quote of its own a string is over for the splitting, not for the search. -/
theorem escapesOwnQuote_eq_false {quoting : Quoting} (hSound : quoting.IsSound) {text : List Char}
    (hEnd : quoting.behind text = .plain)
    (h : ∀ front c back, text = front ++ c :: back →
      (openQuote quoting.quote? front = none ↔ quoting.behind front = .plain)) :
    escapesOwnQuote quoting text = false := by
  induction text generalizing quoting with
  | nil => rfl
  | cons c rest ih =>
    have hNot : quoting ≠ .escaped c := by
      rintro rfl
      cases rest with
      | nil => cases hEnd
      | cons d rest => cases (h [c] d rest rfl).mp (if_pos rfl)
    rw [escapesOwnQuote, decide_eq_false hNot, Bool.false_or]
    apply ih (hSound.next c) hEnd
    intro front d back hRest
    rw [hSound.quote?_next hNot]
    exact h (c :: front) d back (by rw [hRest]; rfl)

/-- In the body of a marker, each character is in a string for the splitting exactly if it is for
the search, if and only if no string has its own quote behind a backslash. Then a bar separates
stages exactly if the search finds it outside of strings. -/
theorem quotes_agree_iff {delimiters : Delimiters} {text raw body : String}
    (h : .marker raw body ∈ Segment.scan delimiters text) :
    ((∀ front c back, body.toList = front ++ c :: back →
        (Pipeline.InQuotes front ↔ Segment.InQuotes front)) ↔
      escapesOwnQuote .plain body.toList = false) ∧
    (escapesOwnQuote .plain body.toList = false → ∀ front back, body.toList = front ++ '|' :: back →
      (Pipeline.Separates front back ↔ ¬Segment.InQuotes front)) := by
  have hAgree : escapesOwnQuote .plain body.toList = false →
      ∀ front c back, body.toList = front ++ c :: back →
        (Pipeline.InQuotes front ↔ Segment.InQuotes front) := by
    intro hEscapes front c back hBody
    rw [hBody] at hEscapes
    have hQuote : openQuote none front = (Quoting.plain.behind front).quote? :=
      openQuote_eq Quoting.isSound_plain hEscapes
    rw [Pipeline.InQuotes, hQuote]
    exact not_congr Quoting.quote?_eq_none_iff
  refine ⟨⟨fun hAll => ?_, hAgree⟩, ?_⟩
  · apply escapesOwnQuote_eq_false Quoting.isSound_plain (Segment.behind_body_eq_plain h)
    intro front c back hBody
    exact not_iff_not.mp (hAll front c back hBody)
  · intro hEscapes front back hBody
    rw [Pipeline.separates_iff, hAgree hEscapes front '|' back hBody]

/-- A backslash that another one escapes ends no string early, nor does the other kind of quote. -/
theorem quotes_agree_escaped_backslash :
    let body := " 'a|\"b\\\\' | upper "
    let text := "\x7b\x7b 'a|\"b\\\\' | upper \x7d\x7d"
    .marker text body ∈ Segment.scan Dialect.pipeline.delimiters text ∧
    (∀ front c back, body.toList = front ++ c :: back →
      (Pipeline.InQuotes front ↔ Segment.InQuotes front)) ∧
    (∀ front back, body.toList = front ++ '|' :: back →
      (Pipeline.Separates front back ↔ ¬Segment.InQuotes front)) := by
  intro body text
  have hOpen : Segment.findToken? ['{', '{'] text.toList = some ([], text.toList.drop 2) := by
    decide +kernel
  have hClose : Segment.findClose? ['}', '}'] 0 .plain (text.toList.drop 2) =
      some (body.toList, []) := by decide +kernel
  have hScan : Segment.scan Dialect.pipeline.delimiters text = [.marker text body] :=
    Segment.scan_eq_marker (List.cons_ne_nil '{' ['{']) hOpen hClose
  have hMarker : .marker text body ∈ Segment.scan Dialect.pipeline.delimiters text := by
    rw [hScan]
    exact List.mem_singleton_self _
  have hEscapes : escapesOwnQuote .plain body.toList = false := by decide +kernel
  obtain ⟨hAgree, hBars⟩ := quotes_agree_iff hMarker
  exact ⟨hMarker, hAgree.mpr hEscapes, hBars hEscapes⟩

/-- Behind an escaped quote the splitting takes the rest of the body for a string: the bar in front
of the filter separates nothing, although the search finds it outside of strings. -/
theorem quotes_disagree_behind_escape :
    let body := " 'it\\'s' | upper "
    let text := "\x7b\x7b 'it\\'s' | upper \x7d\x7d"
    let front := " 'it\\'s' ".toList
    let back := " upper ".toList
    Segment.scan Dialect.pipeline.delimiters text = [.marker text body] ∧
    body.toList = front ++ '|' :: back ∧
    ¬Segment.InQuotes front ∧ Pipeline.InQuotes front ∧ ¬Pipeline.Separates front back ∧
    Pipeline.allStages none body.toList = [body.toList] := by
  intro body text front back
  have hOpen : Segment.findToken? ['{', '{'] text.toList = some ([], text.toList.drop 2) := by
    decide +kernel
  have hClose : Segment.findClose? ['}', '}'] 0 .plain (text.toList.drop 2) =
      some (body.toList, []) := by decide +kernel
  have hScan : Segment.scan Dialect.pipeline.delimiters text = [.marker text body] :=
    Segment.scan_eq_marker (List.cons_ne_nil '{' ['{']) hOpen hClose
  have hPlain : Quoting.plain.behind front = .plain := by decide +kernel
  have hOpened : openQuote none front = some '\'' := by decide +kernel
  have hQuotes : Pipeline.InQuotes front := by
    rw [Pipeline.InQuotes, hOpened]
    exact Option.some_ne_none _
  have hSeparates : ¬Pipeline.Separates front back := fun h => Pipeline.separates_iff.mp h hQuotes
  exact ⟨hScan, by decide +kernel, not_not.mpr hPlain, hQuotes, hSeparates, by decide +kernel⟩

end ParamTree
