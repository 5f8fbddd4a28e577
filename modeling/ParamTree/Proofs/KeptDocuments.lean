import ParamTree.Parameterizer
import ParamTree.Proofs.Lossless
import ParamTree.Proofs.WalkedFields

/-!
# Documents that are kept

Where every expression fails, a lenient document keeps the text of every marker and the entries of
every directive. As the segments of a text make up the text, nothing of the document is lost. Main
statement: `substitute_kept`.
-/

namespace ParamTree

namespace Plan

variable {I : Interface} {ε ε' α β σ : Type}
  {answer : (question : I.Question) → Act σ (I.Answer question)}

/-- The plan comes to the value, whatever the world is in which it starts. -/
def Yields (answer : (question : I.Question) → Act σ (I.Answer question)) (plan : Plan I ε α)
    (value : α) : Prop :=
  ∀ world, ∃ after, plan.run answer world = (some (.ok value), after)

/-- The plan fails, whatever the world is in which it starts. -/
def Fails (answer : (question : I.Question) → Act σ (I.Answer question)) (plan : Plan I ε α) :
    Prop :=
  ∀ world, ∃ error after, plan.run answer world = (some (.error error), after)

theorem yields_done (value : α) : (done value : Plan I ε α).Yields answer value :=
  fun world => ⟨world, rfl⟩

theorem Yields.bind {plan : Plan I ε α} {value : α} {f : α → Plan I ε β} {result : β}
    (h : plan.Yields answer value) (hf : (f value).Yields answer result) :
    (plan >>= f).Yields answer result := by
  intro world
  obtain ⟨middle, hPlan⟩ := h world
  obtain ⟨after, hResult⟩ := hf middle
  refine ⟨after, ?_⟩
  rw [run_bind, hPlan]
  exact hResult

theorem Yields.recover {plan : Plan I ε α} {value : α} (h : plan.Yields answer value)
    (f : ε → Plan I ε' α) : (plan.recover f).Yields answer value := by
  intro world
  obtain ⟨after, hPlan⟩ := h world
  refine ⟨after, ?_⟩
  rw [run_recover, hPlan]

theorem Fails.bind {plan : Plan I ε α} (h : plan.Fails answer) (f : α → Plan I ε β) :
    (plan >>= f).Fails answer := by
  intro world
  obtain ⟨error, after, hPlan⟩ := h world
  refine ⟨error, after, ?_⟩
  rw [run_bind, hPlan]

theorem Fails.recover {plan : Plan I ε α} {f : ε → Plan I ε' α} {value : α}
    (h : plan.Fails answer) (hf : ∀ error, (f error).Yields answer value) :
    (plan.recover f).Yields answer value := by
  intro world
  obtain ⟨error, middle, hPlan⟩ := h world
  obtain ⟨after, hKept⟩ := hf error middle
  refine ⟨after, ?_⟩
  rw [run_recover, hPlan]
  exact hKept

theorem Fails.mapError {plan : Plan I ε α} (h : plan.Fails answer) (f : ε → ε') :
    (plan.mapError f).Fails answer := by
  intro world
  obtain ⟨error, after, hPlan⟩ := h world
  refine ⟨f error, after, ?_⟩
  rw [Plan.mapError, run_recover, hPlan]
  rfl

end Plan

open Plan

namespace Directive

/-- The field of the reserved key that makes an object a directive. -/
def deciding? {α : Type} : Directive α → Option α
  | conditional condition _ _ => some condition
  | selection selector _ => some selector
  | evaluation expression => some expression
  | plain => none

end Directive

namespace Json

mutual

/-- The field that decides about a directive is a text, in every directive of the value. -/
def DecidedByTexts : Json → Prop
  | .array items => ItemsDecidedByTexts items
  | .object fields =>
    (∀ field, (Directive.classify fields).deciding? = some field → ∃ text, field = .string text) ∧
      FieldsDecidedByTexts fields
  | .null | .bool _ | .number _ | .string _ => True

def ItemsDecidedByTexts : List Json → Prop
  | [] => True
  | item :: items => DecidedByTexts item ∧ ItemsDecidedByTexts items

def FieldsDecidedByTexts : List (String × Json) → Prop
  | [] => True
  | (_, value) :: fields => DecidedByTexts value ∧ FieldsDecidedByTexts fields

end

end Json

section Kept

variable {σ : Type} {answer : (question : TemplateQuestion) → Act σ question.Answer}

theorem Template.orKeep_yields {α : Type} {plan kept : Template α} {value : α}
    (hPlan : plan.Fails answer) (hKept : kept.Yields answer value) :
    (Template.orKeep true plan kept).Yields answer value :=
  hPlan.recover fun _ => hKept

/-- Whoever answers has no result for any expression. -/
def Template.Unanswering (answer : (question : TemplateQuestion) → Act σ question.Answer) : Prop :=
  ∀ expression world, ∃ error after,
    answer (.evaluate expression) world = (some (.error error), after)

variable (hAnswer : Template.Unanswering answer)
include hAnswer

theorem Template.evaluate_fails (expression fragment : String) :
    (Template.evaluate expression fragment).Fails answer := by
  intro world
  obtain ⟨error, after, hError⟩ := hAnswer expression world
  refine ⟨.ofFault (.ofEvaluation expression fragment error), after, ?_⟩
  rw [Template.evaluate, run, hError]
  rfl

variable {config : Config} (hDialect : config.dialect = .expression)
  (hLenient : config.isLenient = true)
include hDialect hLenient

namespace Interpolation

theorem spliceSegments_yields (fragment : String) (segments : List Segment) :
    (spliceSegments config fragment segments).Yields answer
      (String.join (segments.map Segment.raw)) := by
  induction segments with
  | nil => exact yields_done ""
  | cons segment rest ih =>
    rw [List.map_cons, String.join_cons]
    cases segment with
    | literal text => exact ih.bind (yields_done _)
    | marker raw body =>
      have hSplice : (splice config body fragment).Fails answer := by
        rw [splice.eq_def, hDialect]
        exact (Template.evaluate_fails hAnswer _ _).bind _
      rw [spliceSegments, hLenient]
      exact (Template.orKeep_yields hSplice (yields_done raw)).bind (ih.bind (yields_done _))

theorem ofSegments_yields (text : String) (segments : List Segment) :
    (ofSegments config text segments).Yields answer
      (some (.string (String.join (segments.map Segment.raw)))) := by
  have hPieces : (spliceSegments config text segments >>= fun result =>
      Plan.done (some (Json.string result))).Yields answer
        (some (.string (String.join (segments.map Segment.raw)))) :=
    (spliceSegments_yields hAnswer hDialect hLenient text segments).bind (yields_done _)
  rw [ofSegments.eq_def, hDialect]
  rcases segments with _ | ⟨_ | ⟨raw, body⟩, _ | ⟨second, rest⟩⟩
  case cons.marker.nil =>
    rw [hLenient]
    exact Template.orKeep_yields (Template.evaluate_fails hAnswer _ _)
      (yields_done (some (Json.string raw)))
  all_goals exact hPieces

theorem interpolate_yields (text : String) :
    (interpolate config text).Yields answer (some (.string text)) := by
  have hSegments :=
    ofSegments_yields hAnswer hDialect hLenient text (Segment.scan config.delimiters text)
  rw [Segment.join_scan] at hSegments
  rw [interpolate]
  split
  · exact hSegments
  · exact yields_done _

end Interpolation

namespace Substitution

theorem resolveKey_yields (key : String) : (resolveKey config key).Yields answer key :=
  (Interpolation.interpolate_yields hAnswer hDialect hLenient key).bind (yields_done key)

omit hDialect hLenient in
/-- A directive fails with the field that decides about it. -/
theorem directive_fails {fields : List (String × Json)}
    (hText : ∀ field, (Directive.classify fields).deciding? = some field →
      ∃ text, field = .string text) (hDirective : Directive.classify fields ≠ .plain) :
    (directive config (walkFields config fields)
      (Directive.classify (walkFields config fields))).Fails answer := by
  rw [classify_walkFields]
  cases hClass : Directive.classify fields with
  | conditional condition yes no =>
    obtain ⟨text, rfl⟩ := hText condition (by rw [hClass]; rfl)
    exact ((Template.evaluate_fails hAnswer text text).mapError _).bind _
  | selection selector cases =>
    obtain ⟨text, rfl⟩ := hText selector (by rw [hClass]; rfl)
    exact ((Template.evaluate_fails hAnswer text text).mapError _).bind _
  | evaluation expression =>
    obtain ⟨text, rfl⟩ := hText expression (by rw [hClass]; rfl)
    exact (Template.evaluate_fails hAnswer text text).mapError _
  | plain => exact (hDirective hClass).elim

omit hDialect in
/-- An object is kept if its entries are. -/
theorem object_yields {fields : List (String × Json)}
    (hText : ∀ field, (Directive.classify fields).deciding? = some field →
      ∃ text, field = .string text) (hKeys : (Entries.keys fields).Nodup)
    (hEntries : (entries config (walkFields config fields)).Yields answer fields) :
    (object config (walkFields config fields)).Yields answer (some (.object fields)) := by
  have hMapping : (mapping config (walkFields config fields)).Yields answer
      (some (.object fields)) := by
    apply hEntries.bind
    rw [Entries.ofList_of_nodup hKeys]
    exact yields_done _
  rw [object, hLenient]
  by_cases hPlain : Directive.classify fields = .plain
  · rw [classify_walkFields, hPlain]
    exact hMapping.recover _
  · exact Template.orKeep_yields (directive_fails hAnswer hText hPlain) hMapping

end Substitution

end Kept

namespace Substitution

variable {σ : Type}

mutual

theorem walk_yields {answer : (question : TemplateQuestion) → Act σ question.Answer}
    (hAnswer : Template.Unanswering answer) {config : Config}
    (hDialect : config.dialect = .expression) (hLenient : config.isLenient = true)
    {document : Json} (hForm : document.WellFormed) (hTexts : document.DecidedByTexts) :
    (walk config document).Yields answer (some document) := by
  cases document with
  | string text => exact Interpolation.interpolate_yields hAnswer hDialect hLenient text
  | array items =>
    exact (elements_yields hAnswer hDialect hLenient hForm hTexts 0).bind (yields_done _)
  | object fields =>
    obtain ⟨hKeys, hFields⟩ := hForm
    obtain ⟨hText, hTexts⟩ := hTexts
    exact object_yields hAnswer hLenient hText hKeys
      (entries_yields hAnswer hDialect hLenient hFields hTexts)
  | null | bool _ | number _ => exact yields_done _

theorem elements_yields {answer : (question : TemplateQuestion) → Act σ question.Answer}
    (hAnswer : Template.Unanswering answer) {config : Config}
    (hDialect : config.dialect = .expression) (hLenient : config.isLenient = true)
    {items : List Json} (hForm : Json.WellFormedItems items)
    (hTexts : Json.ItemsDecidedByTexts items) (position : Nat) :
    (elements position (walkItems config items)).Yields answer items := by
  cases items with
  | nil => exact yields_done []
  | cons item items =>
    have hItem := walk_yields hAnswer hDialect hLenient hForm.1 hTexts.1
    apply (hItem.recover _).bind
    exact (elements_yields hAnswer hDialect hLenient hForm.2 hTexts.2 (position + 1)).bind
      (yields_done _)

theorem entries_yields {answer : (question : TemplateQuestion) → Act σ question.Answer}
    (hAnswer : Template.Unanswering answer) {config : Config}
    (hDialect : config.dialect = .expression) (hLenient : config.isLenient = true)
    {fields : List (String × Json)} (hForm : Json.WellFormedFields fields)
    (hTexts : Json.FieldsDecidedByTexts fields) :
    (entries config (walkFields config fields)).Yields answer fields := by
  cases fields with
  | nil => exact yields_done []
  | cons field fields =>
    obtain ⟨key, value⟩ := field
    have hKey := resolveKey_yields hAnswer hDialect hLenient key
    have hValue := walk_yields hAnswer hDialect hLenient hForm.1 hTexts.1
    apply (hKey.recover _).bind
    apply (hValue.recover _).bind
    exact (entries_yields hAnswer hDialect hLenient hForm.2 hTexts.2).bind (yields_done _)

end

end Substitution

namespace Parameterizer

variable {σ : Type}

/-- If every expression fails, a lenient document is its own result, with all its keys in order. The
fields that decide about directives have to be texts, as any other field decides without failing. -/
theorem substitute_kept (engine : Parameterizer σ) (hDialect : engine.config.dialect = .expression)
    (hLenient : engine.config.policy = .lenient)
    (hFails : ∀ expression params limit world, ∃ error after,
      engine.evaluator expression params limit world = (some (.error error), after))
    (document : Json) (hForm : document.WellFormed) (hTexts : document.DecidedByTexts)
    (params : ParameterSet σ) (world : World σ) :
    ∃ after, engine.substitute document params world = (some (.ok (some document)), after) := by
  have hAnswer : Template.Unanswering
      (params.answerTemplate engine.evaluator engine.config.timeout) :=
    fun expression world => hFails expression params engine.config.timeout world
  have hPolicy : engine.config.isLenient = true := by
    rw [Config.isLenient, hLenient]
    rfl
  exact Substitution.walk_yields hAnswer hDialect hPolicy hForm hTexts world

theorem substitute_kept_nested_directives :
    let engine : Parameterizer Nat := ⟨Config.standard.lenient, fun expression _ _ world =>
      (some (.error (.undefinedName expression)), ⟨world.state + 1, world.now⟩)⟩
    let document : Json := .object [("a $\x7bb\x7d$\x7bc", .number (.ofNat 1)),
      (ifKey, .string "d"), (thenKey, .array [.null,
        .object [(evalKey, .string "e"), ("$\x7bf\x7d", .bool true)]])]
    engine.config.dialect = .expression ∧ engine.config.policy = .lenient ∧
    (∀ expression params limit world, ∃ error after,
      engine.evaluator expression params limit world = (some (.error error), after)) ∧
    document.WellFormed ∧ document.DecidedByTexts ∧
    ∃ after, engine.substitute document .empty ⟨0, 0⟩ = (some (.ok (some document)), after) := by
  intro engine document
  have hFails : ∀ expression params limit world, ∃ error after,
      engine.evaluator expression params limit world = (some (.error error), after) :=
    fun expression _ _ world =>
      ⟨.undefinedName expression, ⟨world.state + 1, world.now⟩, rfl⟩
  have hForm : document.WellFormed := by
    simp [document, Json.WellFormed, Json.WellFormedItems, Json.WellFormedFields, Entries.keys,
      ifKey, thenKey, evalKey]
  have hTexts : document.DecidedByTexts := by
    simp [document, Json.DecidedByTexts, Json.ItemsDecidedByTexts, Json.FieldsDecidedByTexts,
      Directive.classify, Directive.deciding?, Entries.get?, ifKey, thenKey, switchKey, evalKey]
  exact ⟨rfl, rfl, hFails, hForm, hTexts,
    substitute_kept engine rfl rfl hFails document hForm hTexts .empty ⟨0, 0⟩⟩

end Parameterizer

end ParamTree
