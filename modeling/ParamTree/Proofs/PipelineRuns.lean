import ParamTree.Proofs.FilterChains

/-!
# Runs of a pipeline

A pipeline opens with the value of its head and sends it through its filters, one after the other.
It stops at the first stage that fails, and invokes no callable of a later one. Main statements:
`run_reaches_iff` and `run_stops_iff`, for the stages that any body is divided into.
-/

namespace ParamTree

open Plan

/-! ### What the stages come to -/

namespace Pipeline

/-- The text has quotes of one kind at its ends, and the content between them. -/
def Encloses (quote : Char) (content : List Char) (text : String) : Prop :=
  isQuote quote = true ∧ text.toList = quote :: (content ++ [quote])

theorem Encloses.unique {quote quote' : Char} {content content' : List Char} {text : String}
    (h : Encloses quote content text) (h' : Encloses quote' content' text) :
    quote = quote' ∧ content = content' := by
  obtain ⟨hQuote, hContent⟩ := List.cons.inj (h.2.symm.trans h'.2)
  subst hQuote
  exact ⟨rfl, List.append_cancel_right hContent⟩

/-- A quoted literal has the quotes at its ends only. -/
def IsLiteral (text : String) : Prop :=
  ∃ quote content, Encloses quote content text ∧ quote ∉ content

/-- Whatever has quotes at its ends is taken for a literal. -/
def IsQuoted (text : String) : Prop :=
  ∃ quote content, Encloses quote content text

theorem unquoted?_eq_some_iff {text : String} {content : List Char} :
    unquoted? text.toList = some content ↔ ∃ quote, Encloses quote content text := by
  constructor
  · intro h
    cases hText : text.toList with
    | nil =>
      rw [hText] at h
      cases h
    | cons quote rest =>
      rw [hText, unquoted?, Option.ite_none_right_eq_some] at h
      obtain ⟨⟨hQuote, hLast⟩, hContent⟩ := h
      obtain ⟨inner, rfl⟩ := List.getLast?_eq_some_iff.mp hLast
      rw [List.dropLast_concat, Option.some_inj] at hContent
      exact ⟨quote, hQuote, by rw [hText, hContent]⟩
  · rintro ⟨quote, hQuote, hText⟩
    rw [hText]
    exact unquoted?_quoted hQuote content

theorem unquoted?_eq_none_iff {text : String} : unquoted? text.toList = none ↔ ¬IsQuoted text := by
  rw [Option.eq_none_iff_forall_ne_some]
  constructor
  · rintro h ⟨quote, content, hEncloses⟩
    exact h content (unquoted?_eq_some_iff.mpr ⟨quote, hEncloses⟩)
  · intro h content hContent
    obtain ⟨quote, hEncloses⟩ := unquoted?_eq_some_iff.mp hContent
    exact h ⟨quote, content, hEncloses⟩

end Pipeline

open Pipeline (Encloses IsQuoted)

variable {σ : Type}

namespace ParameterSet

theorem entry?_of_crash {params : ParameterSet σ} {name : String} {args : List Json}
    {world after : World σ} (h : params.call name args world = (none, after)) :
    params.entry? name = some (.function args.length) := by
  apply entry?_of_call_ne_error
  intro message hError
  rw [h] at hError
  cases hError

/-- The callable takes as many arguments, and fails, so that the document has the fault, or crashes
and leaves no error. -/
inductive CallStops (params : ParameterSet σ) (name : String) (args : List Json)
    (fault : String → TemplateFault) (world : World σ) :
    Option TemplateError → World σ → Prop where
  | failed {message : String} {after : World σ} :
    params.entry? name = some (.function args.length) →
    params.call name args world = (some (.error message), after) →
    CallStops params name args fault world (some (.ofFault (fault message))) after
  | crashed {after : World σ} :
    params.call name args world = (none, after) →
    CallStops params name args fault world none after

theorem CallStops.entry?_eq {params : ParameterSet σ} {name : String} {args : List Json}
    {fault : String → TemplateFault} {world after : World σ} {stop : Option TemplateError}
    (h : params.CallStops name args fault world stop after) :
    params.entry? name = some (.function args.length) := by
  cases h with
  | failed hEntry _ => exact hEntry
  | crashed hCall => exact entry?_of_crash hCall

/-- The name is bound to a value or to a callable without arguments. -/
def IsSource (params : ParameterSet σ) (name : String) : Prop :=
  (∃ value, params.entry? name = some (.value value)) ∨ params.entry? name = some (.function 0)

theorem not_isSource_of_unbound {params : ParameterSet σ} {name : String}
    (h : params.entry? name = none) : ¬params.IsSource name := by
  rintro (⟨value, hValue⟩ | hFunction)
  · cases h.symm.trans hValue
  · cases h.symm.trans hFunction

/-- The value that a pipeline opens with. What has quotes at its ends is not looked up. -/
inductive HeadYields (params : ParameterSet σ) :
    String → World σ → Json → List Invocation → World σ → Prop where
  | quoted {head : String} {quote : Char} {content : List Char} (world : World σ) :
    Encloses quote content head →
    HeadYields params head world (.string (String.ofList content)) [] world
  | value {head : String} {value : Json} (world : World σ) :
    ¬IsQuoted head → params.entry? head = some (.value value) →
    HeadYields params head world value [] world
  | called {head : String} {value : Json} {world after : World σ} :
    ¬IsQuoted head → params.call head [] world = (some (.ok value), after) →
    HeadYields params head world value [⟨head, []⟩] after

/-- How a pipeline stops at its head: with an error, or with none in a crash. -/
inductive HeadStops (params : ParameterSet σ) (fragment : String) :
    String → World σ → Option TemplateError → List Invocation → World σ → Prop where
  | unresolved {head : String} (world : World σ) :
    ¬IsQuoted head → ¬params.IsSource head →
    HeadStops params fragment head world (some (.ofFault (.unresolved head fragment))) [] world
  | called {head : String} {world after : World σ} {stop : Option TemplateError} :
    ¬IsQuoted head →
    params.CallStops head []
      (fun message => .evaluation head fragment (.runtime s!"`{head}` failed: {message}"))
      world stop after →
    HeadStops params fragment head world stop [⟨head, []⟩] after

/-- How a pipeline stops at a filter that is given the value. -/
inductive FilterStops (params : ParameterSet σ) (expression fragment : String) :
    String → Json → World σ → Option TemplateError → List Invocation → World σ → Prop where
  | unresolved {name : String} (value : Json) (world : World σ) :
    params.entry? name = none →
    FilterStops params expression fragment name value world
      (some (.ofFault (.unresolved name fragment))) [] world
  | invalid {name : String} {entry : Entry} (value : Json) (world : World σ) :
    params.entry? name = some entry → entry ≠ .function 1 →
    FilterStops params expression fragment name value world
      (some (.ofFault (.invalidFilter name fragment))) [] world
  | called {name : String} {value : Json} {world after : World σ} {stop : Option TemplateError} :
    params.CallStops name [value]
      (fun message => .evaluation expression fragment (.runtime s!"`{name}` failed: {message}"))
      world stop after →
    FilterStops params expression fragment name value world stop [⟨name, [value]⟩] after

/-- The filters stop at one of them. Those in front of it have taken the value on, those behind it
are not called. -/
def ChainStops (params : ParameterSet σ) (expression fragment : String) (names : List String)
    (value : Json) (world : World σ) (stop : Option TemplateError) (calls : List Invocation)
    (after : World σ) : Prop :=
  ∃ before name later next middle first last, names = before ++ name :: later ∧
    params.Chain before value world next first middle ∧
    params.FilterStops expression fragment name next middle stop last after ∧
    calls = first ++ last

/-- A pipeline comes to the result. -/
def PipelineYields (params : ParameterSet σ) (head : String) (names : List String)
    (world : World σ) (result : Json) (calls : List Invocation) (after : World σ) : Prop :=
  ∃ value middle first others, params.HeadYields head world value first middle ∧
    params.Chain names value middle result others after ∧ calls = first ++ others

/-- A pipeline stops, at its head or at one of its filters. -/
def PipelineStops (params : ParameterSet σ) (expression fragment head : String)
    (names : List String) (world : World σ) (stop : Option TemplateError)
    (calls : List Invocation) (after : World σ) : Prop :=
  params.HeadStops fragment head world stop calls after ∨
    ∃ value middle first others, params.HeadYields head world value first middle ∧
      params.ChainStops expression fragment names value middle stop others after ∧
      calls = first ++ others

end ParameterSet

/-- The resolution of a document by the evaluator stops, with the invocations. -/
abbrev Template.Stops {α : Type} (evaluator : Evaluator σ) (params : ParameterSet σ)
    (limit : Duration) (plan : Template α) (world : World σ) (stop : Option TemplateError)
    (calls : List Invocation) (after : World σ) : Prop :=
  Plan.Stops (params.answerTemplate evaluator limit) (params.invokedBy limit) plan world stop calls
    after

section Stages

variable {params : ParameterSet σ} {evaluator : Evaluator σ} {limit : Duration}
  {expression fragment : String} {world after : World σ} {value : Json}
  {stop : Option TemplateError} {calls : List Invocation}

theorem ParameterSet.invokedBy_invoke {name : String} {args : List Json}
    (h : params.entry? name = some (.function args.length)) (limit : Duration) (world : World σ) :
    params.invokedBy limit (.invoke name args) world = [⟨name, args⟩] := if_pos h

theorem Template.stops_lookup_iff {α : Type} {name : String} {f : Option Entry → Template α} :
    (lookup name >>= f).Stops evaluator params limit world stop calls after ↔
      (f (params.entry? name)).Stops evaluator params limit world stop calls after :=
  Iff.rfl

/-- A call whose failure becomes a fault of the document stops as the callable does. -/
theorem Template.stops_called_iff {name : String} {args : List Json}
    {f : Except String Json → Template Json} {fault : String → TemplateFault}
    (hOk : ∀ value, f (.ok value) = .done value)
    (hError : ∀ message, f (.error message) = Template.fault (fault message))
    (hEntry : params.entry? name = some (.function args.length)) :
    (invoke name args >>= f).Stops evaluator params limit world stop calls after ↔
      params.CallStops name args fault world stop after ∧ calls = [⟨name, args⟩] := by
  have hCalls := ParameterSet.invokedBy_invoke hEntry limit world
  have hAsk : (invoke name args >>= f) = .ask (TemplateQuestion.invoke name args) f := rfl
  rw [hAsk]
  constructor
  · intro h
    obtain ⟨reply, middle, others, hCall, hReply, rfl⟩ | ⟨hCall, rfl, rfl⟩ := stops_ask_iff.mp h
    · cases reply with
      | ok value =>
        rw [hOk] at hReply
        exact (not_stops_done hReply).elim
      | error message =>
        rw [hError] at hReply
        obtain ⟨rfl, rfl, rfl⟩ := stops_fail_iff.mp hReply
        rw [hCalls]
        exact ⟨.failed hEntry hCall, rfl⟩
    · exact ⟨.crashed hCall, hCalls⟩
  · rintro ⟨hStops, rfl⟩
    cases hStops with
    | @failed message _ _ hCall =>
      refine stops_ask_iff.mpr (.inl ⟨.error message, after, [], hCall, ?_, ?_⟩)
      · rw [hError]
        exact stops_fail_iff.mpr ⟨rfl, rfl, rfl⟩
      · rw [hCalls]
        rfl
    | crashed hCall => exact stops_ask_iff.mpr (.inr ⟨hCall, rfl, hCalls.symm⟩)

namespace Pipeline

theorem reaches_start_iff {head : String} :
    (start head fragment).Reaches evaluator params limit world value calls after ↔
      params.HeadYields head world value calls after := by
  cases hQuoted : unquoted? head.toList with
  | some content =>
    obtain ⟨quote, hEncloses⟩ := unquoted?_eq_some_iff.mp hQuoted
    rw [start, hQuoted]
    constructor
    · intro h
      obtain ⟨rfl, rfl, rfl⟩ := reaches_done_iff.mp h
      exact .quoted world hEncloses
    · intro h
      cases h with
      | quoted _ hOther =>
        obtain ⟨-, rfl⟩ := hEncloses.unique hOther
        exact reaches_done_iff.mpr ⟨rfl, rfl, rfl⟩
      | value _ hNot _ | called hNot _ => exact (hNot ⟨quote, content, hEncloses⟩).elim
  | none =>
    have hNot := unquoted?_eq_none_iff.mp hQuoted
    rw [start, hQuoted]
    refine Template.reaches_lookup_iff.trans ?_
    constructor
    · intro h
      split at h
      · rename_i other hEntry
        obtain ⟨rfl, rfl, rfl⟩ := reaches_done_iff.mp h
        exact .value world hNot hEntry
      · rename_i hEntry
        obtain ⟨reply, middle, _, hCall, hReply, rfl⟩ := reaches_ask_iff.mp h
        cases reply with
        | error message => exact (not_reaches_fail hReply).elim
        | ok other =>
          obtain ⟨rfl, rfl, rfl⟩ := reaches_done_iff.mp hReply
          rw [ParameterSet.invokedBy_invoke hEntry]
          exact .called hNot hCall
      · exact (not_reaches_fail h).elim
    · intro h
      cases h with
      | quoted _ hEncloses => exact (hNot ⟨_, _, hEncloses⟩).elim
      | value _ _ hEntry =>
        rw [hEntry]
        exact reaches_done_iff.mpr ⟨rfl, rfl, rfl⟩
      | called _ hCall =>
        have hEntry := ParameterSet.entry?_of_call hCall
        rw [hEntry, ← ParameterSet.invokedBy_invoke hEntry limit]
        exact .ask_done hCall rfl

theorem start_stops_iff {head : String} :
    (start head fragment).Stops evaluator params limit world stop calls after ↔
      params.HeadStops fragment head world stop calls after := by
  cases hQuoted : unquoted? head.toList with
  | some content =>
    obtain ⟨quote, hEncloses⟩ := unquoted?_eq_some_iff.mp hQuoted
    rw [start, hQuoted]
    constructor
    · intro h
      exact (not_stops_done h).elim
    · intro h
      cases h with
      | unresolved hNot | called hNot => exact (hNot ⟨quote, content, hEncloses⟩).elim
  | none =>
    have hNot := unquoted?_eq_none_iff.mp hQuoted
    rw [start, hQuoted]
    refine Template.stops_lookup_iff.trans ?_
    split
    · rename_i other hEntry
      constructor
      · intro h
        exact (not_stops_done h).elim
      · intro h
        cases h with
        | unresolved _ hSource => exact (hSource (.inl ⟨other, hEntry⟩)).elim
        | called _ hCall => cases hEntry.symm.trans hCall.entry?_eq
    · rename_i hEntry
      refine (Template.stops_called_iff (fun _ => rfl) (fun _ => rfl) hEntry).trans ?_
      constructor
      · rintro ⟨hCall, rfl⟩
        exact .called hNot hCall
      · intro h
        cases h with
        | unresolved _ hSource => exact (hSource (.inr hEntry)).elim
        | called _ hCall => exact ⟨hCall, rfl⟩
    · rename_i hValue hFunction
      constructor
      · intro h
        obtain ⟨rfl, rfl, rfl⟩ := stops_fail_iff.mp h
        refine .unresolved after hNot ?_
        rintro (⟨value, hEntry⟩ | hEntry)
        · exact hValue value hEntry
        · exact hFunction hEntry
      · intro h
        cases h with
        | unresolved => exact stops_fail_iff.mpr ⟨rfl, rfl, rfl⟩
        | called _ hCall => exact (hFunction hCall.entry?_eq).elim

theorem filter_stops_iff {name : String} :
    (filter expression fragment name value).Stops evaluator params limit world stop calls after ↔
      params.FilterStops expression fragment name value world stop calls after := by
  rw [filter]
  refine Template.stops_lookup_iff.trans ?_
  split
  · rename_i hEntry
    refine (Template.stops_called_iff (fun _ => rfl) (fun _ => rfl) hEntry).trans ?_
    constructor
    · rintro ⟨hCall, rfl⟩
      exact .called hCall
    · intro h
      cases h with
      | unresolved _ _ hNone => cases hEntry.symm.trans hNone
      | invalid _ _ hOther hNot =>
        cases hEntry.symm.trans hOther
        exact (hNot rfl).elim
      | called hCall => exact ⟨hCall, rfl⟩
  · rename_i entry hNot hEntry
    constructor
    · intro h
      obtain ⟨rfl, rfl, rfl⟩ := stops_fail_iff.mp h
      refine .invalid value after hEntry ?_
      rintro rfl
      exact hNot rfl
    · intro h
      cases h with
      | unresolved _ _ hNone => cases hEntry.symm.trans hNone
      | invalid => exact stops_fail_iff.mpr ⟨rfl, rfl, rfl⟩
      | called hCall =>
        cases hEntry.symm.trans hCall.entry?_eq
        exact (hNot rfl).elim
  · rename_i hEntry
    constructor
    · intro h
      obtain ⟨rfl, rfl, rfl⟩ := stops_fail_iff.mp h
      exact .unresolved value after hEntry
    · intro h
      cases h with
      | unresolved => exact stops_fail_iff.mpr ⟨rfl, rfl, rfl⟩
      | invalid _ _ hOther => cases hEntry.symm.trans hOther
      | called hCall => cases hEntry.symm.trans hCall.entry?_eq

theorem filters_stop_iff {names : List String} :
    (filters expression fragment names value).Stops evaluator params limit world stop calls after ↔
      params.ChainStops expression fragment names value world stop calls after := by
  -- The first filter stops, or what it has made of the value is stopped further on.
  induction names generalizing value world calls with
  | nil =>
    constructor
    · intro h
      exact (not_stops_done h).elim
    · rintro ⟨before, name, later, _, _, _, _, hNames, -⟩
      cases before <;> cases hNames
  | cons name names ih =>
    rw [filters]
    refine stops_bind_iff.trans ?_
    constructor
    · rintro (⟨next, middle, _, others, hFilter, hOthers, rfl⟩ | hFilter)
      · obtain ⟨hCall, rfl⟩ := reaches_filter_iff.mp hFilter
        obtain ⟨before, stopped, later, last, middle', first, final, rfl, hBefore, hStops, rfl⟩ :=
          ih.mp hOthers
        exact ⟨name :: before, stopped, later, last, middle', _, final, rfl, .cons hCall hBefore,
          hStops, (List.append_assoc _ _ _).symm⟩
      · exact ⟨[], name, names, value, world, [], calls, rfl, .nil value world,
          filter_stops_iff.mp hFilter, rfl⟩
    · rintro ⟨before, stopped, later, last, middle, first, final, hNames, hBefore, hStops, rfl⟩
      cases hBefore with
      | nil =>
        cases hNames
        exact .inr (filter_stops_iff.mpr hStops)
      | cons hCall hBefore =>
        cases hNames
        refine .inl ⟨_, _, _, _, reaches_filter_iff.mpr ⟨hCall, rfl⟩, ih.mpr ?_,
          List.append_assoc _ _ _⟩
        exact ⟨_, stopped, later, last, middle, _, final, rfl, hBefore, hStops, rfl⟩

section Bodies

variable {body head : String} {names : List String} {first : List Char}
  {others : List (List Char)} (hStages : stages none body.toList = (first, others))
  (hHead : trimmed first = head) (hNames : others.map trimmed = names)

include hStages hHead hNames

theorem run_reaches_iff {result : Json} :
    (run body fragment).Reaches evaluator params limit world result calls after ↔
      params.PipelineYields head names world result calls after := by
  rw [run, hStages]
  dsimp only
  rw [hHead, hNames]
  refine reaches_bind_iff.trans ?_
  simp only [reaches_start_iff, reaches_filters_iff]
  rfl

theorem run_stops_iff :
    (run body fragment).Stops evaluator params limit world stop calls after ↔
      params.PipelineStops (Text.trim body) fragment head names world stop calls after := by
  rw [run, hStages]
  dsimp only
  rw [hHead, hNames]
  refine stops_bind_iff.trans ?_
  simp only [start_stops_iff, reaches_start_iff, filters_stop_iff]
  exact or_comm

end Bodies

end Pipeline

end Stages

end ParamTree
