import ParamTree.Template.Interpolation

/-!
# Errors of a text

Whatever fails while a text is resolved names the text as its fragment and an expression that stands
in it. Main statement: `interpolate_failsIn`.
-/

namespace ParamTree

namespace Plan

variable {I : Interface} {ε ε' α β σ : Type}

/-- The plan fails with no other errors than such. -/
inductive FailsWith (P : ε → Prop) : Plan I ε α → Prop where
  | done (value : α) : FailsWith P (.done value)
  | fail {error : ε} : P error → FailsWith P (.fail error)
  | ask {question : I.Question} {next : I.Answer question → Plan I ε α} :
    (∀ answer, FailsWith P (next answer)) → FailsWith P (.ask question next)

namespace FailsWith

variable {P : ε → Prop} {plan : Plan I ε α}

theorem bind {f : α → Plan I ε β} (h : plan.FailsWith P) (hf : ∀ value, (f value).FailsWith P) :
    (plan >>= f).FailsWith P := by
  induction h with
  | done value => exact hf value
  | fail hError => exact .fail hError
  | ask _ ih => exact .ask ih

theorem recover {Q : ε' → Prop} {f : ε → Plan I ε' α} (h : plan.FailsWith P)
    (hf : ∀ error, P error → (f error).FailsWith Q) : (plan.recover f).FailsWith Q := by
  induction h with
  | done value => exact .done value
  | fail hError => exact hf _ hError
  | ask _ ih => exact .ask ih

theorem mapError {Q : ε' → Prop} {f : ε → ε'} (h : plan.FailsWith P)
    (hf : ∀ error, P error → Q (f error)) : (plan.mapError f).FailsWith Q :=
  h.recover fun error hError => .fail (hf error hError)

theorem mono {Q : ε → Prop} (h : plan.FailsWith P) (hMono : ∀ error, P error → Q error) :
    plan.FailsWith Q := by
  induction h with
  | done value => exact .done value
  | fail hError => exact .fail (hMono _ hError)
  | ask _ ih => exact .ask ih

theorem of_run (h : plan.FailsWith P)
    (answer : (question : I.Question) → Act σ (I.Answer question)) {world after : World σ}
    {error : ε} (hRun : plan.run answer world = (some (.error error), after)) : P error := by
  induction h generalizing world with
  | done value => cases hRun
  | fail hError =>
    cases hRun
    exact hError
  | ask _ ih =>
    rw [run] at hRun
    split at hRun
    · exact ih _ hRun
    · cases hRun

end FailsWith

end Plan

theorem Text.infix_trimBlanks (text : List Char) : trimBlanks text <:+: text := by
  have hStart : trimStart text <:+ text := List.dropWhile_suffix _
  have hEnd : trimEnd (trimStart text) <+: trimStart text := by
    rw [trimEnd, ← List.reverse_suffix, List.reverse_reverse]
    exact List.dropWhile_suffix _
  exact hEnd.isInfix.trans hStart.isInfix

theorem Text.infix_trim (text : String) : (trim text).toList <:+: text.toList := by
  rw [toList_trim]
  exact infix_trimBlanks _

/-- The error is about an expression in the text, and nothing is above the text as yet. -/
structure TemplateError.Quotes (text : String) (error : TemplateError) : Prop where
  path_eq : error.path = []
  fragment_eq : error.fault.fragment = text
  infix_expression : error.fault.expression.toList <:+: text.toList

@[simp] theorem TemplateFault.fragment_ofEvaluation (expression fragment : String)
    (cause : EvalError) : (ofEvaluation expression fragment cause).fragment = fragment := by
  cases cause <;> rfl

@[simp] theorem TemplateFault.expression_ofEvaluation (expression fragment : String)
    (cause : EvalError) : (ofEvaluation expression fragment cause).expression = expression := by
  cases cause <;> rfl

namespace Template

variable {α : Type} {text expression : String}

abbrev FailsIn (text : String) (plan : Template α) : Prop :=
  plan.FailsWith (TemplateError.Quotes text)

theorem fault_failsIn {f : TemplateFault} (hFragment : f.fragment = text)
    (hExpression : f.expression.toList <:+: text.toList) :
    FailsIn text (fault f : Template α) :=
  .fail ⟨rfl, hFragment, hExpression⟩

theorem evaluate_failsIn (h : expression.toList <:+: text.toList) :
    FailsIn text (evaluate expression text) := by
  apply Plan.FailsWith.ask
  rintro (cause | result)
  · exact fault_failsIn (by simp) (by simpa using h)
  · exact .done result

/-- A call that returns its value, or fails with a message. -/
theorem invoke_failsIn (name : String) (args : List Json) (message : String → TemplateFault)
    (hFragment : ∀ m, (message m).fragment = text)
    (hExpression : ∀ m, (message m).expression.toList <:+: text.toList) :
    FailsIn text (do
      match ← invoke name args with
      | .ok value => return value
      | .error m => fault (message m)) := by
  apply Plan.FailsWith.ask
  rintro (m | value)
  · exact fault_failsIn (hFragment m) (hExpression m)
  · exact .done value

end Template

namespace Pipeline

open Template (FailsIn)

theorem infix_stages (quote : Option Char) (text : List Char) :
    (stages quote text).1 <+: text ∧ ∀ stage ∈ (stages quote text).2, stage <:+: text := by
  induction text generalizing quote with
  | nil => exact ⟨List.nil_prefix, nofun⟩
  | cons c rest ih =>
    have hPut : ∀ quote, (putFirst c (stages quote rest)).1 <+: c :: rest ∧
        ∀ stage ∈ (putFirst c (stages quote rest)).2, stage <:+: c :: rest := by
      intro quote
      obtain ⟨hFirst, hOthers⟩ := ih quote
      constructor
      · exact (List.prefix_cons_inj c).mpr hFirst
      · intro stage hStage
        exact List.infix_cons (hOthers stage hStage)
    rw [stages.eq_def]
    dsimp only
    split
    · exact hPut _
    · split
      · obtain ⟨hFirst, hOthers⟩ := ih none
        refine ⟨List.nil_prefix, List.forall_mem_cons.mpr ⟨?_, ?_⟩⟩
        · exact List.infix_cons hFirst.isInfix
        · intro stage hStage
          exact List.infix_cons (hOthers stage hStage)
      · exact hPut _

theorem infix_trimmed {stage text : List Char} (h : stage <:+: text) :
    (trimmed stage).toList <:+: text := by
  rw [trimmed, String.toList_ofList]
  exact (Text.infix_trimBlanks stage).trans h

variable {fragment : String}

theorem start_failsIn {head : String} (h : head.toList <:+: fragment.toList) :
    FailsIn fragment (start head fragment) := by
  have hUnresolved : FailsIn fragment
      (Template.fault (.unresolved head fragment) : Template Json) := Template.fault_failsIn rfl h
  rw [start]
  split
  · exact .done _
  · apply Plan.FailsWith.ask
    rintro (_ | (value | (_ | arity)))
    · exact hUnresolved
    · exact .done value
    · exact Template.invoke_failsIn head [] _ (fun _ => by simp) (fun _ => by simpa using h)
    · exact hUnresolved

theorem filter_failsIn {expression name : String}
    (hExpression : expression.toList <:+: fragment.toList)
    (hName : name.toList <:+: fragment.toList) (value : Json) :
    FailsIn fragment (filter expression fragment name value) := by
  have hInvalid : FailsIn fragment
      (Template.fault (.invalidFilter name fragment) : Template Json) :=
    Template.fault_failsIn rfl hName
  apply Plan.FailsWith.ask
  rintro (_ | (bound | (_ | _ | arity)))
  · exact Template.fault_failsIn rfl hName
  · exact hInvalid
  · exact hInvalid
  · exact Template.invoke_failsIn name [value] _ (fun _ => by simp)
      (fun _ => by simpa using hExpression)
  · exact hInvalid

theorem filters_failsIn {expression : String} (hExpression : expression.toList <:+: fragment.toList)
    {names : List String} (hNames : ∀ name ∈ names, name.toList <:+: fragment.toList)
    (value : Json) : FailsIn fragment (filters expression fragment names value) := by
  induction names generalizing value with
  | nil => exact .done value
  | cons name names ih =>
    obtain ⟨hName, hNames⟩ := List.forall_mem_cons.mp hNames
    exact (filter_failsIn hExpression hName value).bind fun value => ih hNames value

theorem run_failsIn {body : String} (h : body.toList <:+: fragment.toList) :
    FailsIn fragment (run body fragment) := by
  obtain ⟨hFirst, hOthers⟩ := infix_stages none body.toList
  have hExpression := (Text.infix_trim body).trans h
  rw [run]
  generalize stages none body.toList = pieces at hFirst hOthers
  obtain ⟨head, others⟩ := pieces
  have hHead := (infix_trimmed hFirst.isInfix).trans h
  refine (start_failsIn hHead).bind fun value => filters_failsIn hExpression ?_ value
  intro name hName
  obtain ⟨stage, hStage, rfl⟩ := List.mem_map.mp hName
  exact (infix_trimmed (hOthers stage hStage)).trans h

end Pipeline

namespace Segment

theorem literal_of_mem_ofLiteral {piece : List Char} {segment : Segment}
    (h : segment ∈ ofLiteral piece) : ∃ text, segment = .literal text := by
  rw [ofLiteral] at h
  split at h
  · cases h
  · exact ⟨_, List.mem_singleton.mp h⟩

theorem body_infix_of_mem_split {first : Char} {others closing pending text : List Char}
    {raw body : String} (h : .marker raw body ∈ Segment.split first others closing pending text) :
    body.toList <:+: text := by
  induction pending, text using Segment.split.induct first others closing with
  | case1 pending text hOpen =>
    rw [split_of_none hOpen] at h
    obtain ⟨_, hLiteral⟩ := literal_of_mem_ofLiteral h
    cases hLiteral
  | case2 pending text before inside hOpen hClose ih =>
    rw [split_of_unclosed hOpen hClose] at h
    rw [eq_of_findToken? hOpen]
    exact (ih h).trans (List.suffix_append _ inside).isInfix
  | case3 pending text before inside hOpen found after hClose ih =>
    rw [split_of_some hOpen hClose] at h
    rw [eq_of_findToken? hOpen, eq_of_findClose? hClose]
    simp only [List.mem_append, List.mem_cons] at h
    obtain hBefore | hMarker | hAfter := h
    · obtain ⟨_, hLiteral⟩ := literal_of_mem_ofLiteral hBefore
      cases hLiteral
    · cases hMarker
      refine ⟨before ++ first :: others, closing ++ after, ?_⟩
      simp
    · refine (ih hAfter).trans (List.IsSuffix.isInfix ?_)
      exact (List.suffix_append _ after).trans (List.suffix_append _ _)

theorem body_infix_of_mem_scan {delimiters : Delimiters} {text raw body : String}
    (h : .marker raw body ∈ scan delimiters text) : body.toList <:+: text.toList := by
  rw [scan] at h
  split at h
  · obtain ⟨_, hLiteral⟩ := literal_of_mem_ofLiteral h
    cases hLiteral
  · exact body_infix_of_mem_split h

end Segment

namespace Interpolation

open Template (FailsIn)

variable (config : Config) {fragment : String}

theorem spliceText_failsIn (result : Option Json) {expression : String}
    (h : expression.toList <:+: fragment.toList) :
    FailsIn fragment (spliceText result expression fragment) := by
  rw [spliceText]
  split
  · exact .done _
  · exact Template.fault_failsIn rfl h

theorem splice_failsIn {body : String} (h : body.toList <:+: fragment.toList) :
    FailsIn fragment (splice config body fragment) := by
  have hExpression := (Text.infix_trim body).trans h
  rw [splice.eq_def]
  split
  · exact (Template.evaluate_failsIn hExpression).bind fun result =>
      spliceText_failsIn result hExpression
  · exact (Pipeline.run_failsIn h).bind fun value => spliceText_failsIn (some value) hExpression

theorem orKeep_failsIn {α : Type} {lenient : Bool} {plan : Template α} (h : FailsIn fragment plan)
    (value : α) : FailsIn fragment (Template.orKeep lenient plan (.done value)) := by
  rw [Template.orKeep]
  split
  · exact h.recover fun _ _ => .done value
  · exact h

theorem spliceSegments_failsIn {segments : List Segment}
    (h : ∀ raw body, .marker raw body ∈ segments → body.toList <:+: fragment.toList) :
    FailsIn fragment (spliceSegments config fragment segments) := by
  induction segments with
  | nil => exact .done ""
  | cons segment rest ih =>
    have hRest := ih fun raw body hMem => h raw body (List.mem_cons_of_mem _ hMem)
    cases segment with
    | literal text => exact hRest.bind fun _ => .done _
    | marker raw body =>
      have hMarker := splice_failsIn config (h raw body List.mem_cons_self)
      exact (orKeep_failsIn hMarker raw).bind fun _ => hRest.bind fun _ => .done _

theorem interpolate_failsIn (config : Config) (text : String) :
    FailsIn text (interpolate config text) := by
  have hBodies : ∀ raw body, .marker raw body ∈ Segment.scan config.delimiters text →
      body.toList <:+: text.toList := fun _ _ => Segment.body_infix_of_mem_scan
  have hPieces := spliceSegments_failsIn config hBodies
  rw [interpolate]
  split
  · rw [ofSegments.eq_def]
    split
    · rename_i raw body _ hMarker
      have hBody := hBodies raw body (by rw [hMarker]; exact List.mem_singleton_self _)
      exact orKeep_failsIn (Template.evaluate_failsIn ((Text.infix_trim body).trans hBody)) _
    · exact hPieces.bind fun _ => .done _
  · exact .done _

end Interpolation

end ParamTree
