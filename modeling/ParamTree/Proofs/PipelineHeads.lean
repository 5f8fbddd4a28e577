import ParamTree.Parameter.Filters
import ParamTree.Proofs.PipelineRuns

/-!
# What a pipeline accepts

A pipeline that comes to a result has callables of one argument for filters. Its head is a quoted
literal, a bound value or a callable without arguments, or it is a text that merely begins and ends
with one kind of quote. Main statement: `head_of_accepted_pipeline`.
-/

namespace ParamTree

variable {σ : Type}

namespace Pipeline

/-- There are more of the quotes between those at the ends of the text. -/
def IsMisquoted (text : String) : Prop :=
  ∃ quote content, Encloses quote content text ∧ quote ∈ content

theorem IsMisquoted.not_isLiteral {text : String} (h : IsMisquoted text) : ¬IsLiteral text := by
  obtain ⟨quote, content, hEncloses, hMem⟩ := h
  rintro ⟨quote', content', hOther, hNot⟩
  obtain ⟨rfl, rfl⟩ := hEncloses.unique hOther
  exact hNot hMem

theorem Encloses.isLiteral_or_isMisquoted {quote : Char} {content : List Char} {text : String}
    (h : Encloses quote content text) : IsLiteral text ∨ IsMisquoted text := by
  by_cases hMem : quote ∈ content
  · exact .inr ⟨quote, content, h, hMem⟩
  · exact .inl ⟨quote, content, h, hMem⟩

end Pipeline

open Pipeline

namespace ParameterSet

variable {params : ParameterSet σ} {world after : World σ} {value result : Json}
  {calls : List Invocation}

theorem Chain.unary {names : List String}
    (h : params.Chain names value world result calls after) :
    ∀ name ∈ names, params.entry? name = some (.function 1) := by
  induction h with
  | nil => exact nofun
  | cons hCall _ ih =>
    have hEntry := entry?_of_call hCall
    exact List.forall_mem_cons.mpr ⟨hEntry, ih⟩

theorem HeadYields.quoted_or_isSource {head : String}
    (h : params.HeadYields head world value calls after) :
    IsLiteral head ∨ IsMisquoted head ∨ params.IsSource head := by
  cases h with
  | quoted _ hEncloses => exact or_assoc.mp (.inl hEncloses.isLiteral_or_isMisquoted)
  | value _ _ hEntry => exact .inr (.inr (.inl ⟨value, hEntry⟩))
  | called _ hCall =>
    have hEntry := entry?_of_call hCall
    exact .inr (.inr (.inr hEntry))

end ParameterSet

namespace Parameterizer

/-- In a pipeline that comes to a result each filter takes one argument. The head is a quoted
literal, or a name of something that yields a value, unless it has quotes at its ends and more of
them in between; then it is taken for a literal and not looked up. -/
theorem head_of_accepted_pipeline (engine : Parameterizer σ) {params : ParameterSet σ}
    {body fragment : String} {world : World σ} {result : Json}
    (h : (engine.perform params (Pipeline.run body fragment) world).1 = some (.ok result)) :
    let head := trimmed (stages none body.toList).1
    let names := (stages none body.toList).2.map trimmed
    (∀ name ∈ names, params.entry? name = some (.function 1)) ∧
    (IsLiteral head ∨ params.IsSource head ↔ ¬IsMisquoted head ∨ params.IsSource head) := by
  intro head names
  have hReaches : Template.Reaches engine.evaluator params engine.config.timeout
      (Pipeline.run body fragment) world result _ _ := ⟨Prod.fst_eq_iff.mp h, rfl⟩
  obtain ⟨value, middle, first, others, hHead, hChain, -⟩ :=
    (run_reaches_iff (Prod.mk.eta).symm rfl rfl).mp hReaches
  refine ⟨hChain.unary, ?_⟩
  constructor
  · rintro (hLiteral | hSource)
    · exact .inl fun hMisquoted => hMisquoted.not_isLiteral hLiteral
    · exact .inr hSource
  · rintro (hNot | hSource)
    · obtain hLiteral | hMisquoted | hSource := hHead.quoted_or_isSource
      · exact .inl hLiteral
      · exact (hNot hMisquoted).elim
      · exact .inr hSource
    · exact .inr hSource

/-- A literal with a bar in it, and a filter behind it. -/
theorem head_of_accepted_pipeline_quoted_bar :
    let params : ParameterSet Nat := .withStandardFilters .empty
    let engine : Parameterizer Nat := .isolated .standard
    let body := " 'a|b' | upper "
    (engine.perform params (Pipeline.run body "fragment") ⟨0, 0⟩).1 =
      some (.ok (.string "A|B")) ∧
    stages none body.toList = (" 'a|b' ".toList, [" upper ".toList]) ∧
    params.entry? "upper" = some (.function 1) ∧
    IsLiteral "'a|b'" ∧ ¬IsMisquoted "'a|b'" := by
  intro params engine body
  have hRun : (engine.perform params (Pipeline.run body "fragment") ⟨0, 0⟩).1 =
      some (.ok (.string "A|B")) := by decide +kernel
  have hStages : stages none body.toList = (" 'a|b' ".toList, [" upper ".toList]) := by
    decide +kernel
  have hHead : trimmed " 'a|b' ".toList = "'a|b'" := by decide +kernel
  have hName : trimmed " upper ".toList = "upper" := by decide +kernel
  obtain ⟨hFilters, hAccepted⟩ := engine.head_of_accepted_pipeline hRun
  rw [hStages] at hFilters hAccepted
  rw [hHead] at hAccepted
  have hUpper := hFilters (trimmed " upper ".toList) List.mem_cons_self
  rw [hName] at hUpper
  have hLiteral : IsLiteral "'a|b'" :=
    ⟨'\'', "a|b".toList, ⟨rfl, by decide +kernel⟩, by decide +kernel⟩
  have hUnbound : params.entry? "'a|b'" = none := rfl
  obtain hNot | hSource := hAccepted.mp (.inl hLiteral)
  · exact ⟨hRun, hStages, hUpper, hLiteral, hNot⟩
  · exact (ParameterSet.not_isSource_of_unbound hUnbound hSource).elim

/-- Two quoted pieces are taken for one literal, although the text is bound to nothing. -/
theorem accepted_pipeline_two_quoted_pieces :
    let params : ParameterSet Nat := .empty
    let engine : Parameterizer Nat := .isolated .standard
    let body := " 'a' 'b' "
    (engine.perform params (Pipeline.run body "fragment") ⟨0, 0⟩).1 =
      some (.ok (.string "a' 'b")) ∧
    trimmed (stages none body.toList).1 = "'a' 'b'" ∧
    IsMisquoted "'a' 'b'" ∧ ¬(IsLiteral "'a' 'b'" ∨ params.IsSource "'a' 'b'") := by
  intro params engine body
  have hMisquoted : IsMisquoted "'a' 'b'" :=
    ⟨'\'', "a' 'b".toList, ⟨rfl, by decide +kernel⟩, by decide +kernel⟩
  have hUnbound : params.entry? "'a' 'b'" = none := rfl
  have hRun : (engine.perform params (Pipeline.run body "fragment") ⟨0, 0⟩).1 =
      some (.ok (.string "a' 'b")) := by decide +kernel
  have hHead : trimmed (stages none body.toList).1 = "'a' 'b'" := by decide +kernel
  refine ⟨hRun, hHead, hMisquoted, ?_⟩
  rintro (hLiteral | hSource)
  · exact hMisquoted.not_isLiteral hLiteral
  · exact ParameterSet.not_isSource_of_unbound hUnbound hSource

end Parameterizer

end ParamTree
