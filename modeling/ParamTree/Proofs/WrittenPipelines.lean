import ParamTree.Proofs.PipelineRuns

/-!
# Pipelines as they are written

Stages that are written with bars between them, and with any blanks around each, are what a body is
divided into again, if they hold no bar outside of quotes. So the written pipeline is the
composition of its filters. Main statement: `pipeline_sends_through_filters`.
-/

namespace ParamTree

namespace Text

variable {lead core tail : List Char}

theorem trimEnd_append (hTail : ∀ c ∈ tail, isBlank c = true) :
    trimEnd (core ++ tail) = trimEnd core := by
  have hReversed : ∀ c ∈ tail.reverse, isBlank c = true :=
    fun c hc => hTail c (List.mem_reverse.mp hc)
  rw [trimEnd, List.reverse_append, List.dropWhile_append_of_pos hReversed, trimEnd]

theorem trimBlanks_around (hLead : ∀ c ∈ lead, isBlank c = true)
    (hTail : ∀ c ∈ tail, isBlank c = true) :
    trimBlanks (lead ++ (core ++ tail)) = trimBlanks core := by
  rw [trimBlanks, trimStart, List.dropWhile_append_of_pos hLead, List.dropWhile_append]
  split
  · rename_i hEmpty
    rw [List.dropWhile_eq_nil_iff.mpr hTail, trimBlanks, trimStart, List.isEmpty_iff.mp hEmpty]
  · exact trimEnd_append hTail

end Text

namespace Pipeline

open Text

/-- A text that is one stage or a part of one, whatever follows it. -/
def Unsplit (text : List Char) : Prop :=
  ∀ rest, stages none (text ++ rest) = (text ++ (stages none rest).1, (stages none rest).2)

theorem Unsplit.append {text more : List Char} (h : Unsplit text) (hMore : Unsplit more) :
    Unsplit (text ++ more) := by
  intro rest
  rw [List.append_assoc, h, hMore, List.append_assoc]

theorem isQuote_of_isBlank {c : Char} (h : isBlank c = true) : isQuote c = false := by
  cases hQuote : isQuote c with
  | false => rfl
  | true =>
    rw [Lexer.isBlank_of_isQuote hQuote] at h
    cases h

theorem unsplit_blanks {blanks : List Char} (h : ∀ c ∈ blanks, isBlank c = true) :
    Unsplit blanks :=
  stages_plain fun c hc => ⟨ne_of_isBlank (h c hc) (by decide), isQuote_of_isBlank (h c hc)⟩

theorem stages_intercalate {first : List Char} {others : List (List Char)}
    (h : ∀ text ∈ first :: others, Unsplit text) :
    stages none (['|'].intercalate (first :: others)) = (first, others) := by
  induction others generalizing first with
  | nil =>
    have hFirst := h first List.mem_cons_self []
    rw [List.append_nil] at hFirst
    rw [List.intercalate_singleton, hFirst]
    exact congrArg (·, []) (List.append_nil first)
  | cons second others ih =>
    obtain ⟨hFirst, hOthers⟩ := List.forall_mem_cons.mp h
    rw [List.intercalate_cons_cons, List.append_assoc, hFirst, List.singleton_append, stages,
      if_pos rfl, ih hOthers]
    exact congrArg (·, _) (List.append_nil first)

/-- A name of a stage: it holds no bar and no quote, and has no blanks at its ends. -/
structure IsStageName (name : String) : Prop where
  plain : ∀ c ∈ name.toList, c ≠ '|' ∧ isQuote c = false
  trimmed : Text.trim name = name

theorem isStageName_iff {name : String} :
    IsStageName name ↔
      name.toList.all (fun c => c ≠ '|' ∧ isQuote c = false) = true ∧ Text.trim name = name := by
  rw [List.all_eq_true]
  constructor
  · intro h
    exact ⟨fun c hc => decide_eq_true (h.plain c hc), h.trimmed⟩
  · rintro ⟨hPlain, hTrimmed⟩
    exact ⟨fun c hc => of_decide_eq_true (hPlain c hc), hTrimmed⟩

instance (name : String) : Decidable (IsStageName name) :=
  decidable_of_decidable_of_iff isStageName_iff.symm

/-- A stage as it is written, with blanks around its text. -/
structure Stage where
  lead : List Char
  text : String
  tail : List Char
  lead_blank : lead.all isBlank = true
  tail_blank : tail.all isBlank = true

namespace Stage

def chars (stage : Stage) : List Char :=
  stage.lead ++ (stage.text.toList ++ stage.tail)

def written (stage : Stage) : String :=
  String.ofList stage.chars

theorem unsplit_chars {stage : Stage} (h : Unsplit stage.text.toList) : Unsplit stage.chars := by
  have hLead := unsplit_blanks (List.all_eq_true.mp stage.lead_blank)
  have hTail := unsplit_blanks (List.all_eq_true.mp stage.tail_blank)
  exact hLead.append (h.append hTail)

theorem trimmed_chars (stage : Stage) : trimmed stage.chars = Text.trim stage.text := by
  rw [trimmed, chars, trimBlanks_around (List.all_eq_true.mp stage.lead_blank)
    (List.all_eq_true.mp stage.tail_blank), Text.trim]

end Stage

def writtenStages (head : Stage) (filters : List Stage) : String :=
  "|".intercalate ((head :: filters).map Stage.written)

/-- The text is not divided and stays as it is when blanks at its ends are dropped. -/
structure IsWhole (text : String) : Prop where
  unsplit : Unsplit text.toList
  trimmed : Text.trim text = text

theorem IsStageName.isWhole {name : String} (h : IsStageName name) : IsWhole name :=
  ⟨stages_plain h.plain, h.trimmed⟩

theorem Solid.isWhole {text : String} (h : Solid text) : IsWhole text := by
  have hNothing : ∀ c ∈ ([] : List Char), isBlank c = true := nofun
  have hTrimmed := trimmed_solid h hNothing hNothing
  rw [List.nil_append, List.append_nil] at hTrimmed
  exact ⟨h.unsplit, hTrimmed⟩

theorem IsLiteral.isWhole {text : String} (h : IsLiteral text) : IsWhole text := by
  obtain ⟨quote, content, ⟨hQuote, hText⟩, hContent⟩ := h
  refine Solid.isWhole (.quoted hQuote ?_ hText)
  rintro c hc rfl
  exact hContent hc

theorem stages_writtenStages {head : Stage} {filters : List Stage}
    (h : ∀ stage ∈ head :: filters, IsWhole stage.text) :
    stages none (writtenStages head filters).toList = (head.chars, filters.map Stage.chars) := by
  have hChars : (writtenStages head filters).toList =
      ['|'].intercalate (head.chars :: filters.map Stage.chars) := by
    rw [writtenStages, String.toList_intercalate, List.map_map]
    congr 1
    simp [Stage.written]
  rw [hChars]
  apply stages_intercalate
  intro text hText
  rw [← List.map_cons] at hText
  obtain ⟨stage, hStage, rfl⟩ := List.mem_map.mp hText
  exact stage.unsplit_chars (h stage hStage).unsplit

end Pipeline

namespace Parameterizer

open Pipeline

/-- Stages with bars between them, and blanks around them, are a pipeline: it comes to what the
filters make of the value of the head, one after the other, or stops where the first stage fails,
and then no callable of a later stage has been invoked. -/
theorem pipeline_sends_through_filters {σ : Type} (engine : Parameterizer σ)
    (params : ParameterSet σ) {head : Stage} {filters : List Stage}
    (hHead : IsLiteral head.text ∨ IsStageName head.text)
    (hFilters : ∀ stage ∈ filters, IsStageName stage.text) (fragment : String)
    (world after : World σ) (calls : List Invocation) :
    let text := writtenStages head filters
    let plan := Pipeline.run text fragment
    let names := filters.map Stage.text
    (∀ result, (engine.perform params plan world = (some (.ok result), after) ∧
        engine.invocations params plan world = calls) ↔
      params.PipelineYields head.text names world result calls after) ∧
    (∀ stop : Option TemplateError,
      (engine.perform params plan world = (stop.map .error, after) ∧
        engine.invocations params plan world = calls) ↔
      params.PipelineStops (Text.trim text) fragment head.text names world stop calls after) := by
  intro text plan names
  have hWhole : ∀ stage ∈ head :: filters, IsWhole stage.text := by
    refine List.forall_mem_cons.mpr ⟨?_, fun stage hStage => (hFilters stage hStage).isWhole⟩
    obtain hLiteral | hName := hHead
    · exact hLiteral.isWhole
    · exact hName.isWhole
  have hStages := stages_writtenStages hWhole
  obtain ⟨hFirst, hOthers⟩ := List.forall_mem_cons.mp hWhole
  have hHeadText : trimmed head.chars = head.text := by
    rw [Stage.trimmed_chars, hFirst.trimmed]
  have hNames : (filters.map Stage.chars).map trimmed = names := by
    rw [List.map_map]
    apply List.map_congr_left
    intro stage hStage
    rw [Function.comp_apply, Stage.trimmed_chars, (hOthers stage hStage).trimmed]
  exact ⟨fun result => run_reaches_iff hStages hHeadText hNames,
    fun stop => run_stops_iff hStages hHeadText hNames⟩

/-- The second of three filters fails, so the third one is not called. -/
theorem pipeline_sends_through_filters_failing_callable :
    let tag : Callable Nat :=
      ⟨1, fun args count => (⟨.value (.array (.ofNat count :: args)), ⟨5⟩⟩, count + 1)⟩
    let bad : Callable Nat := ⟨1, fun _ count => (⟨.failure "no", ⟨5⟩⟩, count + 1)⟩
    let params : ParameterSet Nat := ⟨[("tag", .callable tag), ("bad", .callable bad)]⟩
    let engine : Parameterizer Nat := .isolated .standard
    let text := "\t\"a|'b\" | tag|bad | tag"
    let plan := Pipeline.run text "fragment"
    let error : TemplateError :=
      .ofFault (.evaluation (Text.trim text) "fragment" (.runtime "`bad` failed: no"))
    let calls : List Invocation :=
      [⟨"tag", [.string "a|'b"]⟩, ⟨"bad", [.array [.ofNat 0, .string "a|'b"]]⟩]
    (engine.perform params plan ⟨0, 0⟩).1 = some (.error error) ∧
    engine.invocations params plan ⟨0, 0⟩ = calls ∧
    params.PipelineStops (Text.trim text) "fragment" "\"a|'b\"" ["tag", "bad", "tag"] ⟨0, 0⟩
      (some error) calls (engine.perform params plan ⟨0, 0⟩).2 := by
  intro tag bad params engine text plan error calls
  let head : Stage := ⟨['\t'], "\"a|'b\"", [' '], by decide, by decide⟩
  let first : Stage := ⟨[' '], "tag", [], by decide, rfl⟩
  let second : Stage := ⟨[], "bad", [' '], rfl, by decide⟩
  let third : Stage := ⟨[' '], "tag", [], by decide, rfl⟩
  have hText : writtenStages head [first, second, third] = text := by decide +kernel
  have hHead : IsLiteral head.text :=
    ⟨'"', ['a', '|', '\'', 'b'], ⟨by decide, by decide +kernel⟩, by decide⟩
  have hName : ∀ name ∈ ["tag", "bad", "tag"], IsStageName name := by decide +kernel
  have hFilters : ∀ stage ∈ [first, second, third], IsStageName stage.text :=
    List.forall_mem_map.mp hName
  have hRun : (engine.perform params plan ⟨0, 0⟩).1 = some (.error error) := by decide +kernel
  have hCalls : engine.invocations params plan ⟨0, 0⟩ = calls := by decide +kernel
  have hSent := pipeline_sends_through_filters engine params (.inl hHead) hFilters "fragment"
    ⟨0, 0⟩ (engine.perform params plan ⟨0, 0⟩).2 calls
  rw [hText] at hSent
  exact ⟨hRun, hCalls, (hSent.2 (some error)).mp ⟨Prod.fst_eq_iff.mp hRun, hCalls⟩⟩

end Parameterizer

end ParamTree
