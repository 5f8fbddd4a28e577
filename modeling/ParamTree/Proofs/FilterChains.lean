import Mathlib.Data.Prod.Basic
import ParamTree.Proofs.Passages
import ParamTree.Proofs.Stages
import ParamTree.Proofs.Untimed

/-!
# Chains of filters

A value that is sent through filters becomes what the nested calls of these filters evaluate to. A
pipeline looks each filter up when its turn has come, nested calls look the last one up first; where
all goes well, both call the same callables in the same order. Main statement:
`pipeline_agrees_with_calls`.
-/

namespace ParamTree

open Plan Grammar Lexer

/-- The filters as nested calls, the first one around the head. -/
def callText (head : String) (names : List String) : String :=
  names.foldl (fun text name => name ++ "(" ++ text ++ ")") head

def Expr.calls (head : Expr) (names : List String) : Expr :=
  names.foldl (fun e name => .call name [e]) head

@[simp] theorem Expr.calls_cons (head : Expr) (name : String) (names : List String) :
    head.calls (name :: names) = (call name [head]).calls names := rfl

section Reading

variable {text head : String} {names : List String}

theorem Grammar.Passage.calls (hNames : ∀ name ∈ names, IsName name) {e : Expr}
    (h : Passage .postfixed text.toList e) :
    Passage .postfixed (callText text names).toList (e.calls names) := by
  induction names generalizing text e with
  | nil => exact h
  | cons name names ih =>
    obtain ⟨hName, hNames⟩ := List.forall_mem_cons.mp hNames
    have hCall := Passage.call hName (h.operand.expression (Nat.zero_le 6))
    apply ih hNames
    simpa using hCall

theorem Expr.eq_calls_of_ofText (hNames : ∀ name ∈ names, IsName name) {e whole : Expr}
    (hHead : Passage .primary head.toList e) (hWhole : ofText (callText head names) = .ok whole) :
    whole = e.calls names := by
  refine Passage.eq_of_ofText ?_ hWhole
  exact (Passage.calls hNames hHead.postfixed).operand.expression (Nat.zero_le 6)

end Reading

variable {σ : Type} {params : ParameterSet σ}

namespace ParameterSet

/-- A name bound to the value, or the value between quotes. -/
inductive HeadValue (params : ParameterSet σ) : String → Json → Prop where
  | name {id : String} {value : Json} :
    IsName id → params.get? id = some (.value value) → HeadValue params id value
  | quoted {quote : Char} {content : List Char} :
    isQuote quote = true → (∀ c ∈ content, c ≠ quote ∧ c ≠ '\\') →
    HeadValue params (String.ofList (quote :: (content ++ [quote])))
      (.string (String.ofList content))

theorem HeadValue.solid {head : String} {value : Json} (h : params.HeadValue head value) :
    Pipeline.Solid head := by
  cases h with
  | name hName _ => exact .identifier hName.1
  | quoted hQuote hContent =>
    exact .quoted hQuote (fun c hc => (hContent c hc).1) String.toList_ofList

/-- The callables, called one after the other, take the value to the result. -/
inductive Chain (params : ParameterSet σ) :
    List String → Json → World σ → Json → List Invocation → World σ → Prop where
  | nil (value : Json) (world : World σ) : Chain params [] value world value [] world
  | cons {name : String} {names : List String} {value next result : Json}
    {calls : List Invocation} {world middle after : World σ} :
    params.call name [value] world = (some (.ok next), middle) →
    Chain params names next middle result calls after →
    Chain params (name :: names) value world result
      (params.invoked (.invoke name [value]) world ++ calls) after

end ParameterSet

section Calls

variable {world after : World σ} {calls : List Invocation}

namespace Evaluation

theorem reaches_lookup_iff {α : Type} {name : String} {f : Option Entry → Evaluation α}
    {value : α} :
    (lookup name >>= f).Reaches params world value calls after ↔
      (f (params.entry? name)).Reaches params world value calls after :=
  Iff.rfl

theorem reaches_require_iff {place : Place} {result : Option Json} {value : Json} :
    (require place result).Reaches params world value calls after ↔
      result = some value ∧ calls = [] ∧ world = after := by
  cases result with
  | none => exact ⟨fun h => (not_reaches_fail h).elim, fun h => nomatch h.1⟩
  | some other => exact reaches_done_iff.trans (by rw [Option.some_inj])

theorem reaches_callWith_iff {callee : String} {args : Evaluation (List Json)}
    {result : Option Json} :
    (callWith callee args).Reaches params world result calls after ↔
      ∃ values next middle first, args.Reaches params world values first middle ∧
        params.call callee values middle = (some (.ok next), after) ∧ result = some next ∧
        calls = first ++ params.invoked (.invoke callee values) middle := by
  rw [callWith, reaches_lookup_iff]
  constructor
  · intro h
    split at h
    case h_1 arity hName =>
      obtain ⟨values, middle, first, others, hArgs, hInvoke, rfl⟩ := reaches_bind_iff.mp h
      obtain ⟨reply, middle', others, hCall, hReply, rfl⟩ := reaches_ask_iff.mp hInvoke
      cases reply with
      | error message => exact (not_reaches_fail hReply).elim
      | ok next =>
        obtain ⟨rfl, rfl, rfl⟩ := reaches_done_iff.mp (reaches_inTime_iff.mp hReply)
        rw [List.append_nil]
        exact ⟨values, next, middle, first, hArgs, hCall, rfl, rfl⟩
    · exact (not_reaches_fail h).elim
    · exact (not_reaches_fail h).elim
  · rintro ⟨values, next, middle, first, hArgs, hCall, rfl, rfl⟩
    rw [ParameterSet.entry?_of_call hCall]
    apply hArgs.bind
    refine reaches_ask_iff.mpr ⟨.ok next, after, [], hCall, ?_, (List.append_nil _).symm⟩
    exact reaches_inTime_iff.mpr ⟨rfl, rfl⟩

end Evaluation

namespace Expr

theorem reaches_evaluateAll_singleton_iff {place : Nat → Place} {position : Nat} {item : Expr}
    {values : List Json} :
    (evaluateAll place position [item]).Reaches params world values calls after ↔
      ∃ value, values = [value] ∧ item.evaluate.Reaches params world (some value) calls after := by
  rw [evaluateAll, evaluateAll]
  constructor
  · intro h
    obtain ⟨result, middle, first, _, hItem, hValues, rfl⟩ := reaches_bind_iff.mp h
    obtain ⟨value, _, _, _, hRequire, hEnd, rfl⟩ := reaches_bind_iff.mp hValues
    obtain ⟨rfl, rfl, rfl⟩ := Evaluation.reaches_require_iff.mp hRequire
    obtain ⟨rfl, rfl, rfl⟩ := reaches_done_iff.mp hEnd
    exact ⟨value, rfl, by simpa using hItem⟩
  · rintro ⟨value, rfl, hItem⟩
    exact hItem.bind_done rfl

theorem reaches_call_iff {callee : String} {arg : Expr} {result : Json} :
    (call callee [arg]).evaluate.Reaches params world (some result) calls after ↔
      ∃ value middle first, arg.evaluate.Reaches params world (some value) first middle ∧
        params.call callee [value] middle = (some (.ok result), after) ∧
        calls = first ++ params.invoked (.invoke callee [value]) middle := by
  rw [evaluate, Evaluation.reaches_inTime_iff, Evaluation.reaches_callWith_iff]
  constructor
  · rintro ⟨values, next, middle, first, hValues, hCall, hNext, rfl⟩
    obtain ⟨value, rfl, hArg⟩ := reaches_evaluateAll_singleton_iff.mp hValues
    cases hNext
    exact ⟨value, middle, first, hArg, hCall, rfl⟩
  · rintro ⟨value, middle, first, hArg, hCall, rfl⟩
    refine ⟨[value], result, middle, first, ?_, hCall, rfl, rfl⟩
    exact reaches_evaluateAll_singleton_iff.mpr ⟨value, rfl, hArg⟩

theorem reaches_calls_iff {head : Expr} {names : List String} {result : Json} :
    (head.calls names).evaluate.Reaches params world (some result) calls after ↔
      ∃ value middle first others, head.evaluate.Reaches params world (some value) first middle ∧
        params.Chain names value middle result others after ∧ calls = first ++ others := by
  -- The last name is the outermost call, so the head takes in one call after the other.
  induction names generalizing head calls with
  | nil =>
    constructor
    · intro h
      exact ⟨result, after, calls, [], h, .nil result after, (List.append_nil _).symm⟩
    · rintro ⟨value, middle, first, others, h, hChain, rfl⟩
      cases hChain
      rwa [List.append_nil]
  | cons name names ih =>
    rw [calls_cons, ih]
    constructor
    · rintro ⟨next, middle, first, others, hCall, hChain, rfl⟩
      obtain ⟨value, middle', first, hHead, hNext, rfl⟩ := reaches_call_iff.mp hCall
      exact ⟨value, middle', first, _, hHead, .cons hNext hChain, List.append_assoc _ _ _⟩
    · rintro ⟨value, middle, first, _, hHead, hChain, rfl⟩
      cases hChain with
      | cons hNext hChain =>
        exact ⟨_, _, _, _, reaches_call_iff.mpr ⟨value, middle, first, hHead, hNext, rfl⟩, hChain,
          (List.append_assoc _ _ _).symm⟩

/-- The calls around a head take its value to the result as the filters do. -/
theorem reaches_calls_iff_chain {e : Expr} {names : List String} {value result : Json}
    (h : e.evaluate.Reaches params world (some value) [] world) :
    (e.calls names).evaluate.Reaches params world (some result) calls after ↔
      params.Chain names value world result calls after := by
  rw [reaches_calls_iff]
  constructor
  · rintro ⟨value', middle, first, others, hHead, hChain, rfl⟩
    obtain ⟨hValue, rfl, rfl⟩ := hHead.unique h
    cases hValue
    exact hChain
  · intro hChain
    exact ⟨value, world, [], calls, h, hChain, rfl⟩

end Expr

namespace ParameterSet

/-- The head is an expression of the value, and nothing is invoked for it. -/
theorem HeadValue.exists_expr {head : String} {value : Json} (h : params.HeadValue head value) :
    ∃ e, Passage .primary head.toList e ∧
      ∀ world, e.evaluate.Reaches params world (some value) [] world := by
  cases h with
  | name hName hValue =>
    refine ⟨_, .name hName, fun world => ?_⟩
    rw [Expr.evaluate, Evaluation.reaches_inTime_iff, Evaluation.valueOf,
      Evaluation.reaches_lookup_iff, ParameterSet.entry?, hValue]
    exact ⟨rfl, rfl⟩
  | quoted hQuote hContent =>
    refine ⟨_, ?_, Expr.reaches_literal _⟩
    rw [String.toList_ofList]
    exact .quoted hQuote hContent

end ParameterSet

/-- An evaluator that reports no timeout calls the filters as a chain does. -/
theorem Evaluator.eq_ok_iff_chain {evaluator : Evaluator σ}
    (hEvaluator : evaluator = .cooperative ∨ evaluator = .standard) {head : String} {value : Json}
    (hHead : params.HeadValue head value) {names : List String}
    (hNames : ∀ name ∈ names, IsName name) {whole : Expr}
    (hWhole : Expr.ofText (callText head names) = .ok whole) {limit : Duration}
    (hTime : ¬TimedOut (evaluator (callText head names) params limit world).1) {result : Json} :
    (evaluator (callText head names) params limit world = (some (.ok (some result)), after) ∧
        params.invokedBy limit (.evaluate (callText head names)) world = calls) ↔
      params.Chain names value world result calls after := by
  obtain ⟨e, hPassage, hReaches⟩ := hHead.exists_expr
  rw [eq_ok_iff_reaches hEvaluator hWhole hTime, Expr.eq_calls_of_ofText hNames hPassage hWhole]
  exact Expr.reaches_calls_iff_chain (hReaches world)

end Calls

/-! ### Pipelines -/

section Filters

variable {evaluator : Evaluator σ} {limit : Duration} {expression fragment : String}
  {world after : World σ} {calls : List Invocation}

theorem Template.reaches_lookup_iff {α : Type} {name : String} {f : Option Entry → Template α}
    {value : α} :
    (lookup name >>= f).Reaches evaluator params limit world value calls after ↔
      (f (params.entry? name)).Reaches evaluator params limit world value calls after :=
  Iff.rfl

namespace Pipeline

theorem reaches_filter_iff {name : String} {value next : Json} :
    (filter expression fragment name value).Reaches evaluator params limit world next calls after ↔
      params.call name [value] world = (some (.ok next), after) ∧
        calls = params.invoked (.invoke name [value]) world := by
  rw [filter, Template.reaches_lookup_iff]
  constructor
  · intro h
    split at h
    case h_1 hName =>
      obtain ⟨reply, middle, _, hCall, hReply, rfl⟩ := reaches_ask_iff.mp h
      cases reply with
      | error message => exact (not_reaches_fail hReply).elim
      | ok next' =>
        obtain ⟨rfl, rfl, rfl⟩ := reaches_done_iff.mp hReply
        exact ⟨hCall, List.append_nil _⟩
    · exact (not_reaches_fail h).elim
    · exact (not_reaches_fail h).elim
  · rintro ⟨hCall, rfl⟩
    rw [ParameterSet.entry?_of_call hCall]
    exact .ask_done hCall rfl

theorem reaches_filters_iff {names : List String} {value result : Json} :
    (filters expression fragment names value).Reaches evaluator params limit world result calls
        after ↔
      params.Chain names value world result calls after := by
  induction names generalizing value world calls with
  | nil =>
    constructor
    · intro h
      obtain ⟨rfl, rfl, rfl⟩ := reaches_done_iff.mp h
      exact .nil value world
    · rintro ⟨⟩
      exact reaches_done_iff.mpr ⟨rfl, rfl, rfl⟩
  | cons name names ih =>
    rw [filters]
    constructor
    · intro h
      obtain ⟨next, middle, _, others, hFilter, hOthers, rfl⟩ := reaches_bind_iff.mp h
      obtain ⟨hCall, rfl⟩ := reaches_filter_iff.mp hFilter
      exact .cons hCall (ih.mp hOthers)
    · rintro ⟨⟩
      rename_i hCall hChain
      exact (reaches_filter_iff.mpr ⟨hCall, rfl⟩).bind (ih.mpr hChain)

theorem unquoted?_quoted {quote : Char} (h : isQuote quote = true) (content : List Char) :
    unquoted? (quote :: (content ++ [quote])) = some content := by
  rw [unquoted?, List.getLast?_concat, if_pos ⟨h, rfl⟩, List.dropLast_concat]

theorem unquoted?_of_isIdentifier {text : List Char} (h : isIdentifier text = true) :
    unquoted? text = none := by
  obtain ⟨first, letters, rfl, hFirst, -⟩ := exists_of_isIdentifier h
  have hQuote : isQuote first = false := isQuote_of_isNamePart (namePart_of_isNameStart hFirst)
  rw [unquoted?, if_neg (by simp [hQuote])]

theorem reaches_start {head : String} {value : Json} (h : params.HeadValue head value) :
    (start head fragment).Reaches evaluator params limit world value [] world := by
  cases h with
  | name hName hValue =>
    rw [start, unquoted?_of_isIdentifier hName.1]
    refine Template.reaches_lookup_iff.mpr ?_
    rw [ParameterSet.entry?, hValue]
    exact ⟨rfl, rfl⟩
  | quoted hQuote _ =>
    rw [start, String.toList_ofList, unquoted?_quoted hQuote]
    exact ⟨rfl, rfl⟩

theorem reaches_run_iff {head : String} {names : List String} {value result : Json}
    (hHead : params.HeadValue head value) (hNames : ∀ name ∈ names, IsName name) :
    (run (pipelineText head names) fragment).Reaches evaluator params limit world result calls
        after ↔
      params.Chain names value world result calls after := by
  have hSolid : ∀ name ∈ names, Solid name := fun name hName => .identifier (hNames name hName).1
  obtain ⟨first, others, hStages, hFirst, hOthers⟩ := stages_pipelineText hHead.solid hSolid
  rw [run, hStages]
  dsimp only
  rw [hFirst, hOthers]
  constructor
  · intro h
    obtain ⟨value', middle, _, others, hStart, hFilters, rfl⟩ := reaches_bind_iff.mp h
    obtain ⟨rfl, rfl, rfl⟩ := hStart.unique (reaches_start hHead)
    exact reaches_filters_iff.mp hFilters
  · intro h
    exact (reaches_start hHead).bind (reaches_filters_iff.mpr h)

end Pipeline

end Filters

namespace Parameterizer

/-- A head with filters behind it has the value that the nested calls of the filters on the head
have, and one of them has a value only if the other has. Then both made the same invocations. -/
theorem pipeline_agrees_with_calls (engine : Parameterizer σ)
    (hEvaluator : engine.evaluator = .cooperative ∨ engine.evaluator = .standard)
    {params : ParameterSet σ} {head : String} {value : Json} (hHead : params.HeadValue head value)
    {names : List String} (hNames : ∀ name ∈ names, IsName name)
    (hWhole : ∃ e, Expr.ofText (callText head names) = .ok e) (fragment : String)
    {world : World σ}
    (hTime : ¬Evaluator.TimedOut (engine.evaluator (callText head names) params
      engine.config.timeout world).1) :
    let pipeline := Pipeline.run (Pipeline.pipelineText head names) fragment
    (∀ result, (engine.perform params pipeline world).1 = some (.ok result) ↔
      (engine.evaluator (callText head names) params engine.config.timeout world).1 =
        some (.ok (some result))) ∧
    (∀ result, (engine.perform params pipeline world).1 = some (.ok result) →
      engine.invocations params pipeline world =
        params.invokedBy engine.config.timeout (.evaluate (callText head names)) world ∧
      (engine.perform params pipeline world).2 =
        (engine.evaluator (callText head names) params engine.config.timeout world).2) := by
  intro pipeline
  obtain ⟨whole, hWhole⟩ := hWhole
  have hPipeline : ∀ {result calls after},
      (engine.perform params pipeline world = (some (.ok result), after) ∧
        engine.invocations params pipeline world = calls) ↔
        params.Chain names value world result calls after :=
    Pipeline.reaches_run_iff hHead hNames
  have hSame := fun {result calls after} => (@hPipeline result calls after).trans
    (Evaluator.eq_ok_iff_chain hEvaluator hHead hNames hWhole hTime).symm
  constructor
  · intro result
    constructor
    · intro hRun
      rw [(hSame.mp ⟨Prod.fst_eq_iff.mp hRun, rfl⟩).1]
    · intro hRun
      rw [(hSame.mpr ⟨Prod.fst_eq_iff.mp hRun, rfl⟩).1]
  · intro result hRun
    obtain ⟨hAnswer, hInvoked⟩ := hSame.mp ⟨Prod.fst_eq_iff.mp hRun, rfl⟩
    constructor
    · exact hInvoked.symm
    · rw [hAnswer]

theorem pipeline_agrees_with_calls_counting_callable :
    let tag : Callable Nat :=
      ⟨1, fun args count => (⟨.value (.array (.ofNat count :: args)), ⟨5⟩⟩, count + 1)⟩
    let params : ParameterSet Nat := ⟨[("tag", .callable tag)]⟩
    let engine : Parameterizer Nat := .isolated .standard
    let pipeline := Pipeline.run (Pipeline.pipelineText "'a|b'" ["tag", "tag"]) "fragment"
    let tagged : Json := .array [.ofNat 1, .array [.ofNat 0, .string "a|b"]]
    Pipeline.pipelineText "'a|b'" ["tag", "tag"] = "'a|b' | tag | tag" ∧
    callText "'a|b'" ["tag", "tag"] = "tag(tag('a|b'))" ∧
    (engine.perform params pipeline ⟨0, 0⟩).1 = some (.ok tagged) ∧
    (engine.evaluator (callText "'a|b'" ["tag", "tag"]) params engine.config.timeout ⟨0, 0⟩).1 =
      some (.ok (some tagged)) ∧
    engine.invocations params pipeline ⟨0, 0⟩ =
      params.invokedBy engine.config.timeout (.evaluate (callText "'a|b'" ["tag", "tag"]))
        ⟨0, 0⟩ := by
  intro tag params engine pipeline tagged
  have hRun : (engine.perform params pipeline ⟨0, 0⟩).1 = some (.ok tagged) := by decide +kernel
  have hSame : (engine.evaluator (callText "'a|b'" ["tag", "tag"]) params engine.config.timeout
      ⟨0, 0⟩).1 = some (.ok (some tagged)) := by decide +kernel
  have hHead : params.HeadValue "'a|b'" (.string "a|b") :=
    @ParameterSet.HeadValue.quoted _ _ '\'' ['a', '|', 'b'] rfl (by simp)
  have hNames : ∀ name ∈ ["tag", "tag"], IsName name := by decide
  have hWhole : ∃ e, Expr.ofText (callText "'a|b'" ["tag", "tag"]) = .ok e :=
    Except.exists_eq_ok (by decide +kernel)
  have hAgree := pipeline_agrees_with_calls engine (.inr rfl) hHead hNames hWhole "fragment"
    (Evaluator.not_timedOut hSame)
  exact ⟨by decide, by decide, hRun, (hAgree.1 tagged).mp hRun, (hAgree.2 tagged hRun).1⟩

end Parameterizer

end ParamTree
