import ParamTree.Proofs.DocumentCourse
import ParamTree.Proofs.Lenience
import ParamTree.Proofs.WalkedFields

/-!
# Order of calls

The plan for a document follows the course of the document: every part of the plan follows the
course of the part that it resolves. Main statement: `calls_inOrder`, by which the calls of every
run take this course and the replies leave no choice in it.
-/

namespace ParamTree

section Follows

open Template (Follows)

variable {config : Config}

/-- A place that keeps something without calls when it fails. -/
theorem Course.follows_failure {α : Type} (value : α) (error : TemplateError) :
    Follows (Template.orKeep config.isLenient (.fail error) (.done value))
      (Course.failure config) := by
  rw [Template.orKeep, Course.failure]
  split
  · exact .done value
  · exact .fail error

variable (hDialect : config.dialect = .expression)
include hDialect

theorem Interpolation.marker_follows (raw body fragment : String) :
    Follows (Template.orKeep config.isLenient (splice config body fragment) (.done raw))
      (Course.ofMarker config (Text.trim body)) := by
  rw [splice.eq_def, hDialect]
  refine Follows.orKeep_evaluate (fun _ => rfl) (fun _ => ⟨_, rfl⟩) (fun result => ?_)
    (Course.follows_failure raw)
  rw [spliceText]
  split
  · rename_i text hText
    rw [hText, Option.isSome_some, if_pos rfl]
    cases config.isLenient <;> exact .done _
  · rename_i hText
    rw [hText, Option.isSome_none, if_neg nofun]
    exact Course.follows_failure raw _

theorem Interpolation.spliceSegments_follows (fragment : String) (segments : List Segment) :
    Follows (spliceSegments config fragment segments) (Course.ofPieces config segments) := by
  induction segments with
  | nil => exact .done _
  | cons segment rest ih =>
    cases segment with
    | literal text => exact ih.bind_done fun _ => ⟨_, rfl⟩
    | marker raw body =>
      exact (marker_follows hDialect raw body fragment).bind fun _ =>
        ih.bind_done fun _ => ⟨_, rfl⟩

theorem Interpolation.ofSegments_follows (text : String) (segments : List Segment) :
    Follows (ofSegments config text segments) (Course.ofSegments config segments) := by
  have hPieces : Follows (spliceSegments config text segments >>= fun result =>
      Plan.done (some (Json.string result))) (Course.ofPieces config segments) :=
    (spliceSegments_follows hDialect text segments).bind_done fun _ => ⟨_, rfl⟩
  rw [ofSegments.eq_def, hDialect]
  rcases segments with _ | ⟨_ | ⟨raw, body⟩, _ | ⟨second, rest⟩⟩
  case cons.marker.nil =>
    have hWhole : Follows (Template.orKeep config.isLenient
        (Template.evaluate (Text.trim body) text >>= .done) (.done (some (.string raw))))
        (.call (Text.trim body) (fun _ => .silent) (Course.failure config)) := by
      refine Follows.orKeep_evaluate (fun _ => rfl) (fun _ => ⟨_, rfl⟩) (fun result => ?_)
        (Course.follows_failure _)
      cases config.isLenient <;> exact .done _
    rwa [Plan.bind_done] at hWhole
  all_goals exact hPieces

omit hDialect in
theorem Course.ofPieces_of_no_marker {segments : List Segment}
    (h : segments.any Segment.isMarker = false) : ofPieces config segments = silent := by
  induction segments with
  | nil => rfl
  | cons segment rest ih =>
    cases segment with
    | literal text => exact ih h
    | marker raw body => cases h

theorem Interpolation.interpolate_follows (text : String) :
    Follows (interpolate config text) (Course.ofText config text) := by
  rw [interpolate, Course.ofText]
  generalize Segment.scan config.delimiters text = segments
  split
  · exact ofSegments_follows hDialect text segments
  · rename_i hMarker
    have hPieces : Course.ofPieces config segments = .silent :=
      Course.ofPieces_of_no_marker (Bool.eq_false_iff.mpr hMarker)
    rw [Course.ofSegments.eq_def]
    split
    · exact (hMarker rfl).elim
    · rw [hPieces]
      exact .done _

namespace Substitution

theorem resolveKey_follows (key : String) :
    Follows (resolveKey config key) (Course.ofText config key) := by
  apply (Interpolation.interpolate_follows hDialect key).bind_done
  intro result
  split <;> exact ⟨_, rfl⟩

omit hDialect in
theorem decision_follows {key : String} {field : Json} {lenient : Bool}
    {f : Option Json → Template (Option Json)} {kept : Template (Option Json)}
    {course : Option Json → Course} {unable : Course}
    (h : ∀ result, Follows (Template.orKeep lenient (f result) kept) (course result))
    (hUnable : ∀ error, Follows (Template.orKeep lenient (.fail error) kept) unable) :
    Follows (Template.orKeep lenient (Template.under (.key key) (decision field) >>= f) kept)
      (Course.ofDecision unable course field) := by
  cases field with
  | string text => exact Follows.orKeep_evaluate (fun _ => rfl) (fun _ => ⟨_, rfl⟩) h hUnable
  | null | bool _ | number _ | array _ | object _ => exact h _

omit hDialect in
theorem unable_follows {fields : List (String × Field)} {entriesCourse : Course}
    (hMapping : Follows (mapping config fields) entriesCourse) (error : TemplateError) :
    Follows (Template.orKeep config.isLenient (.fail error) (mapping config fields))
      (if config.isLenient then entriesCourse else .stuck) := by
  cases config.isLenient with
  | true => exact hMapping
  | false => exact .fail error

omit hDialect in
/-- A branch of a lenient document cannot fail, so only the deciding field is recovered from. -/
theorem keptBranch_follows {fields : List (String × Json)} {label : String}
    (hBranch : Follows (branch label (Entries.get? (walkFields config fields) label))
      (Course.ofBranch config label fields)) :
    Follows (Template.orKeep config.isLenient
      (branch label (Entries.get? (walkFields config fields) label))
      (mapping config (walkFields config fields))) (Course.ofBranch config label fields) := by
  rw [Template.orKeep]
  split
  · rename_i hLenient
    rw [(branch_neverFails (walkFields_neverFail hLenient fields) label).recover_eq]
    exact hBranch
  · exact hBranch

omit hDialect in
/-- An object takes the course of its directive, if its entries and branches take theirs. -/
theorem object_follows {fields : List (String × Json)}
    (hEntries : Follows (entries config (walkFields config fields))
      (Course.ofFields config fields))
    (hBranch : ∀ label, Follows (branch label (Entries.get? (walkFields config fields) label))
      (Course.ofBranch config label fields)) :
    Follows (object config (walkFields config fields)) (Course.ofJson config (.object fields)) := by
  have hMapping : Follows (mapping config (walkFields config fields))
      (Course.ofFields config fields) := hEntries.bind_done fun _ => ⟨_, rfl⟩
  have hUnable := unable_follows hMapping
  have hKept := fun label => keptBranch_follows (hBranch label)
  have hDone : ∀ result, Follows (Template.orKeep config.isLenient (.done result)
      (mapping config (walkFields config fields))) .silent := by
    intro result
    cases config.isLenient <;> exact .done result
  rw [object, Course.ofJson, classify_walkFields]
  cases Directive.classify fields with
  | conditional condition yes no =>
    apply decision_follows _ hUnable
    intro result
    split
    · exact hKept thenKey
    · exact hKept elseKey
  | selection selector cases =>
    apply decision_follows _ hUnable
    intro result
    cases result with
    | none => exact hDone none
    | some value =>
      rcases hText : value.scalarText? with _ | label
      · simp only [Interpolation.spliceText, Option.bind_some, hText]
        exact hUnable _
      · simp only [Interpolation.spliceText, Option.bind_some, hText]
        change Follows (Template.orKeep _ (branch label (if label = switchKey then none else _)) _) _
        by_cases hLabel : label = switchKey
        · rw [if_pos hLabel, if_pos hLabel]
          exact hDone none
        · rw [if_neg hLabel, if_neg hLabel]
          exact hKept label
  | evaluation expression =>
    rw [walkedDirective, directive, ← Plan.bind_done (Template.under _ _)]
    exact decision_follows hDone hUnable
  | plain =>
    rw [Template.orKeep]
    split
    · rename_i hLenient
      have hNever := mapping_neverFails hLenient (walkFields_neverFail hLenient fields)
      rw [walkedDirective, directive, hNever.recover_eq]
      exact hMapping
    · exact hMapping

end Substitution

end Follows

namespace Substitution

open Template (Follows)

mutual

theorem walk_follows {config : Config} (hDialect : config.dialect = .expression)
    (document : Json) : Follows (walk config document) (Course.ofJson config document) := by
  cases document with
  | string text => exact Interpolation.interpolate_follows hDialect text
  | array items => exact (elements_follows hDialect items 0).bind_done fun _ => ⟨_, rfl⟩
  | object fields =>
    exact object_follows (entries_follows hDialect fields) (branch_follows hDialect fields)
  | null | bool _ | number _ => exact .done _

theorem elements_follows {config : Config} (hDialect : config.dialect = .expression)
    (items : List Json) (position : Nat) :
    Follows (elements position (walkItems config items)) (Course.ofItems config items) := by
  cases items with
  | nil => exact .done _
  | cons item items =>
    apply ((walk_follows hDialect item).under _).bind
    intro result
    apply (elements_follows hDialect items (position + 1)).bind_done
    intro values
    cases result <;> exact ⟨_, rfl⟩

theorem entries_follows {config : Config} (hDialect : config.dialect = .expression)
    (fields : List (String × Json)) :
    Follows (entries config (walkFields config fields)) (Course.ofFields config fields) := by
  cases fields with
  | nil => exact .done _
  | cons field fields =>
    obtain ⟨key, value⟩ := field
    apply ((resolveKey_follows hDialect key).under _).bind
    intro name
    apply ((walk_follows hDialect value).under _).bind
    intro result
    apply (entries_follows hDialect fields).bind_done
    intro others
    cases result <;> exact ⟨_, rfl⟩

theorem branch_follows {config : Config} (hDialect : config.dialect = .expression)
    (fields : List (String × Json)) (label : String) :
    Follows (branch label (Entries.get? (walkFields config fields) label))
      (Course.ofBranch config label fields) := by
  cases fields with
  | nil => exact .done _
  | cons field fields =>
    obtain ⟨key, value⟩ := field
    rw [walkFields, Entries.get?, Course.ofBranch]
    split
    · exact (walk_follows hDialect value).under _
    · exact branch_follows hDialect fields label

end

end Substitution

namespace Parameterizer

variable {σ : Type}

def calls (engine : Parameterizer σ) (document : Json) (params : ParameterSet σ)
    (world : World σ) : List Call :=
  (engine.exchanges document params world).filterMap Exchange.call?

/-- The calls of a run take the course of the document and end as it ends. With the replies that
they got, no other calls do. All expressions are written in the document, in this order, and none
of them is left out if the run is completed and there are no directives. -/
theorem calls_inOrder (engine : Parameterizer σ) (hDialect : engine.config.dialect = .expression)
    (document : Json) (params : ParameterSet σ) (world : World σ) :
    let calls := engine.calls document params world
    let ending := Ending.of (engine.substitute document params world).1
    Course.ofJson engine.config document calls ending ∧
    (∀ others ending', Course.ofJson engine.config document others ending' →
      others.map Call.reply = calls.map Call.reply → others = calls ∧ ending' = ending) ∧
    (calls.map Call.expression).Sublist (document.expressions engine.config) ∧
    (document.WithoutDirectives → ending = .completed →
      calls.map Call.expression = document.expressions engine.config) := by
  intro calls ending
  have hCourse : Course.ofJson engine.config document calls ending :=
    Substitution.walk_follows hDialect document σ
      (params.answerTemplate engine.evaluator engine.config.timeout) world
  refine ⟨hCourse, ?_, ?_, ?_⟩
  · intro others ending' hOthers hReplies
    have hDet := Course.ofJson_deterministic engine.config document
    have hReplies' : (others ++ []).map Call.reply = (calls ++ []).map Call.reply := by
      rw [List.append_nil, List.append_nil, hReplies]
    exact hDet hOthers hCourse hReplies'
  · exact Course.ofJson_within engine.config document hCourse
  · intro hPlain hCompleted
    rw [hCompleted] at hCourse
    exact Course.ofJson_exhausts engine.config hPlain hCourse

/-- The branch that is not taken makes no call. -/
theorem calls_inOrder_counting_evaluator :
    let engine : Parameterizer Nat := ⟨Config.standard, fun _ _ _ world =>
      (some (.ok (some (.ofNat world.state))), ⟨world.state + 1, world.now⟩)⟩
    let document : Json := .object [("$\x7ba\x7d", .string "$\x7bb\x7d"),
      ("c", .object [(ifKey, .string "d"), (thenKey, .string "$\x7be\x7d $\x7bf\x7d"),
        (elseKey, .string "$\x7bg\x7d")])]
    let calls : List Call := [⟨"a", some (.ok (some (.ofNat 0)))⟩,
      ⟨"b", some (.ok (some (.ofNat 1)))⟩, ⟨"d", some (.ok (some (.ofNat 2)))⟩,
      ⟨"e", some (.ok (some (.ofNat 3)))⟩, ⟨"f", some (.ok (some (.ofNat 4)))⟩]
    engine.config.dialect = .expression ∧
    engine.calls document .empty ⟨0, 0⟩ = calls ∧
    Ending.of (engine.substitute document .empty ⟨0, 0⟩).1 = .completed ∧
    Course.ofJson engine.config document calls .completed ∧
    (∀ others ending, Course.ofJson engine.config document others ending →
      others.map Call.reply = calls.map Call.reply → others = calls ∧ ending = .completed) ∧
    (calls.map Call.expression).Sublist (document.expressions engine.config) := by
  intro engine document calls
  have hCalls : engine.calls document .empty ⟨0, 0⟩ = calls := by decide +kernel
  have hEnding : Ending.of (engine.substitute document .empty ⟨0, 0⟩).1 = .completed := by
    decide +kernel
  obtain ⟨hCourse, hDetermined, hWritten, -⟩ := calls_inOrder engine rfl document .empty ⟨0, 0⟩
  rw [hCalls, hEnding] at hCourse hDetermined
  rw [hCalls] at hWritten
  exact ⟨rfl, hCalls, hEnding, hCourse, hDetermined, hWritten⟩

end Parameterizer

end ParamTree
