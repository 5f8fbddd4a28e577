import ParamTree.Parameterizer
import ParamTree.Proofs.FragmentErrors
import ParamTree.Proofs.WalkedFields

/-!
# Where errors come from

The path of an error is extended on its way up, by one segment for every array and object, so that
it leads from the root of the document to what failed. Main statement: `error_liesIn_document`.
-/

namespace ParamTree

/-- The part of a value that a path leads to. -/
def Json.follow? : Json → List PathSegment → Option Json
  | value, [] => some value
  | .object fields, .key key :: path =>
    (Entries.get? fields key).bind fun value => follow? value path
  | .array items, .index i :: path => items[i]?.bind fun item => follow? item path
  | _, _ :: _ => none

/-- What a path leads to when the text of a fragment has failed: the text, a field that has it as
its key, or a selector that is no text, which has an empty fragment. -/
inductive Json.Locates (document : Json) (path : List PathSegment) (fragment : String) : Prop where
  | text : document.follow? path = some (.string fragment) → Locates document path fragment
  | key {parent : List PathSegment} {node : Json} :
    path = parent ++ [.key fragment] → document.follow? path = some node →
    Locates document path fragment
  | selector {parent : List PathSegment} {fields : Entries Json} {node : Json} :
    path = parent ++ [.key switchKey] → document.follow? parent = some (.object fields) →
    Directive.classify fields = .selection node fields → document.follow? path = some node →
    node.string? = none → fragment = "" → Locates document path fragment

/-- The path of the error leads to its fragment, and the fragment holds its expression. -/
structure TemplateError.LiesIn (document : Json) (error : TemplateError) : Prop where
  locates : document.Locates error.path error.fault.fragment
  infix_expression : error.fault.expression.toList <:+: error.fault.fragment.toList

/-- What decides about a directive is the field of its reserved key. -/
theorem Directive.classify_cases {α : Type} (fields : Entries α) :
    (∃ condition yes no, Entries.get? fields ifKey = some condition ∧
      classify fields = .conditional condition yes no) ∨
    (∃ selector, Entries.get? fields switchKey = some selector ∧
      classify fields = .selection selector fields) ∨
    (∃ expression, Entries.get? fields evalKey = some expression ∧
      classify fields = .evaluation expression) ∨
    classify fields = .plain := by
  rw [classify]
  cases Entries.get? fields ifKey with
  | some condition => exact .inl ⟨condition, _, _, rfl, rfl⟩
  | none =>
    cases Entries.get? fields switchKey with
    | some selector => exact .inr (.inl ⟨selector, rfl, rfl⟩)
    | none =>
      cases Entries.get? fields evalKey with
      | some expression => exact .inr (.inr (.inl ⟨expression, rfl, rfl⟩))
      | none => exact .inr (.inr (.inr rfl))

theorem Json.follow?_key {fields : Entries Json} {key : String} {value : Json}
    (h : Entries.get? fields key = some value) (path : List PathSegment) :
    (Json.object fields).follow? (.key key :: path) = value.follow? path := by
  rw [Json.follow?, h]
  rfl

theorem Json.follow?_index {items : List Json} {i : Nat} {item : Json} (h : items[i]? = some item)
    (path : List PathSegment) :
    (Json.array items).follow? (.index i :: path) = item.follow? path := by
  rw [Json.follow?, h]
  rfl

theorem Json.eq_string_of_string? {value : Json} {text : String} (h : value.string? = some text) :
    value = .string text := by
  cases value with
  | string other => exact congrArg Json.string (Option.some.inj h)
  | null | bool _ | number _ | array _ | object _ => cases h

/-- A segment more in front of a path that stays below it. -/
theorem Json.Locates.under {value document : Json} {segment : PathSegment}
    {path : List PathSegment} {fragment : String} (h : value.Locates path fragment)
    (hSegment : ∀ path, document.follow? (segment :: path) = value.follow? path) :
    document.Locates (segment :: path) fragment := by
  cases h with
  | text hText => exact .text ((hSegment path).trans hText)
  | key hPath hNode =>
    subst hPath
    exact .key (List.cons_append.symm) ((hSegment _).trans hNode)
  | selector hPath hParent hClass hNode hString hFragment =>
    subst hPath
    exact .selector (List.cons_append.symm) ((hSegment _).trans hParent) hClass
      ((hSegment _).trans hNode) hString hFragment

namespace TemplateError

variable {error : TemplateError}

theorem Quotes.liesIn {text : String} (h : error.Quotes text) : error.LiesIn (.string text) := by
  obtain ⟨hPath, hFragment, hExpression⟩ := h
  constructor
  · rw [hPath, hFragment]
    exact .text rfl
  · rw [hFragment]
    exact hExpression

theorem LiesIn.under {value document : Json} {segment : PathSegment} (h : error.LiesIn value)
    (hSegment : ∀ path, document.follow? (segment :: path) = value.follow? path) :
    (error.under segment).LiesIn document :=
  ⟨h.locates.under hSegment, h.infix_expression⟩

theorem Quotes.liesIn_under {text : String} {document : Json} {segment : PathSegment}
    (h : error.Quotes text) (hLocates : document.Locates [segment] text) :
    (error.under segment).LiesIn document := by
  obtain ⟨hPath, hFragment, hExpression⟩ := h
  constructor
  · change Json.Locates _ (segment :: error.path) error.fault.fragment
    rw [hPath, hFragment]
    exact hLocates
  · change error.fault.expression.toList <:+: error.fault.fragment.toList
    rw [hFragment]
    exact hExpression

/-- The error of a key belongs to the field of that key. -/
theorem Quotes.liesIn_key {key : String} {value : Json} {fields : Entries Json}
    (h : error.Quotes key) (hGet : Entries.get? fields key = some value) :
    (error.under (.key key)).LiesIn (.object fields) :=
  h.liesIn_under (.key (List.nil_append _).symm (Json.follow?_key hGet []))

/-- A selector that is no text has no fragment to show. -/
theorem Quotes.liesIn_selector {selector : Json} {fields : Entries Json} (h : error.Quotes "")
    (hGet : Entries.get? fields switchKey = some selector)
    (hClass : Directive.classify fields = .selection selector fields)
    (hString : selector.string? = none) :
    (error.under (.key switchKey)).LiesIn (.object fields) :=
  h.liesIn_under
    (.selector (List.nil_append _).symm rfl hClass (Json.follow?_key hGet []) hString rfl)

end TemplateError

namespace Substitution

open Plan TemplateError

variable {config : Config}

theorem interpolate_failsWith (config : Config) (text : String) :
    (Interpolation.interpolate config text).FailsWith (LiesIn (.string text)) :=
  (Interpolation.interpolate_failsIn config text).mono fun _ hError => hError.liesIn

theorem resolveKey_failsWith {fields : Entries Json} {key : String} {value : Json}
    (h : Entries.get? fields key = some value) :
    (Template.under (.key key) (resolveKey config key)).FailsWith (LiesIn (.object fields)) := by
  have hKey : Template.FailsIn key (resolveKey config key) := by
    apply (Interpolation.interpolate_failsIn config key).bind
    intro result
    split <;> exact .done _
  exact hKey.mapError fun _ hError => hError.liesIn_key h

section Object

variable {fields : List (String × Json)}

theorem decision_failsWith {key : String} {field : Json}
    (h : Entries.get? fields key = some field) :
    (Template.under (.key key) (decision field)).FailsWith (LiesIn (.object fields)) := by
  cases field with
  | string text =>
    have hText : Template.FailsIn text (Template.evaluate text text) :=
      Template.evaluate_failsIn List.infix_rfl
    exact hText.mapError fun _ hError => hError.liesIn.under (Json.follow?_key h)
  | null | bool _ | number _ | array _ | object _ => exact .done _

/-- The label that a selector gives. One that is no text has no source to show. -/
theorem label_failsWith {selector : Json} (hGet : Entries.get? fields switchKey = some selector)
    (hClass : Directive.classify fields = .selection selector fields) (value : Json) :
    (Template.under (.key switchKey) (Interpolation.spliceText (some value)
      (selector.string?.getD "") (selector.string?.getD ""))).FailsWith
        (LiesIn (.object fields)) := by
  have hSource := Interpolation.spliceText_failsIn (some value)
    (List.infix_refl (selector.string?.getD "").toList)
  apply hSource.mapError
  intro error hQuotes
  cases hString : selector.string? with
  | some text =>
    rw [hString] at hQuotes
    rw [Json.eq_string_of_string? hString] at hGet
    exact hQuotes.liesIn.under (Json.follow?_key hGet)
  | none =>
    rw [hString] at hQuotes
    exact hQuotes.liesIn_selector hGet hClass hString

theorem object_failsWith
    (hEntries : (entries config (walkFields config fields)).FailsWith (LiesIn (.object fields)))
    (hBranch : ∀ label, (branch label (Entries.get? (walkFields config fields) label)).FailsWith
      (LiesIn (.object fields))) :
    (object config (walkFields config fields)).FailsWith (LiesIn (.object fields)) := by
  have hMapping : (mapping config (walkFields config fields)).FailsWith (LiesIn (.object fields)) :=
    hEntries.bind fun _ => .done _
  have hDirective : (directive config (walkFields config fields)
      (Directive.classify (walkFields config fields))).FailsWith (LiesIn (.object fields)) := by
    rw [classify_walkFields]
    obtain ⟨condition, yes, no, hGet, hClass⟩ | ⟨selector, hGet, hClass⟩ |
      ⟨expression, hGet, hClass⟩ | hClass := Directive.classify_cases fields
    · rw [hClass]
      apply (decision_failsWith hGet).bind
      intro result
      split
      · exact hBranch thenKey
      · exact hBranch elseKey
    · rw [hClass]
      apply (decision_failsWith hGet).bind
      rintro (_ | value)
      · exact .done none
      · apply (label_failsWith hGet hClass value).bind
        intro label
        by_cases hLabel : label = switchKey
        · rw [if_pos hLabel]
          exact .done none
        · rw [if_neg hLabel]
          exact hBranch label
    · rw [hClass]
      exact decision_failsWith hGet
    · rw [hClass]
      exact hMapping
  rw [object, Template.orKeep]
  split
  · exact hDirective.recover fun _ _ => hMapping
  · exact hDirective

end Object

mutual

theorem walk_failsWith {config : Config} {document : Json} (hForm : document.WellFormed) :
    (walk config document).FailsWith (LiesIn document) := by
  cases document with
  | string text => exact interpolate_failsWith config text
  | array items =>
    have hElements := elements_failsWith config 0 hForm fun i =>
      congrArg (items[·]?) (Nat.zero_add i)
    exact hElements.bind fun _ => .done _
  | object fields =>
    obtain ⟨hKeys, hValues⟩ := hForm
    exact object_failsWith (entries_failsWith hValues fun _ => Entries.get?_of_mem hKeys)
      fun label => branch_failsWith hValues rfl
  | null | bool _ | number _ => exact .done _

/-- The elements stand at their place in the whole array, whatever the elements before them give. -/
theorem elements_failsWith (config : Config) {items whole : List Json} (position : Nat)
    (hForm : Json.WellFormedItems items) (hWhole : ∀ i, whole[position + i]? = items[i]?) :
    (elements position (walkItems config items)).FailsWith (LiesIn (.array whole)) := by
  cases items with
  | nil => exact .done []
  | cons item items =>
    have hItem : whole[position]? = some item := hWhole 0
    have hOthers : ∀ i, whole[position + 1 + i]? = items[i]? := by
      intro i
      rw [Nat.add_right_comm]
      exact hWhole (i + 1)
    apply ((walk_failsWith hForm.1).mapError fun _ hError =>
      hError.under (Json.follow?_index hItem)).bind
    intro result
    apply (elements_failsWith config (position + 1) hForm.2 hOthers).bind
    intro values
    cases result <;> exact .done _

theorem entries_failsWith {config : Config} {fields whole : List (String × Json)}
    (hForm : Json.WellFormedFields fields)
    (hWhole : ∀ field ∈ fields, Entries.get? whole field.1 = some field.2) :
    (entries config (walkFields config fields)).FailsWith (LiesIn (.object whole)) := by
  cases fields with
  | nil => exact .done []
  | cons field fields =>
    obtain ⟨key, value⟩ := field
    obtain ⟨hField, hOthers⟩ := List.forall_mem_cons.mp hWhole
    apply (resolveKey_failsWith hField).bind
    intro name
    apply ((walk_failsWith hForm.1).mapError fun _ hError =>
      hError.under (Json.follow?_key hField)).bind
    intro result
    apply (entries_failsWith hForm.2 hOthers).bind
    intro others
    cases result <;> exact .done _

theorem branch_failsWith {config : Config} {fields whole : List (String × Json)} {label : String}
    (hForm : Json.WellFormedFields fields)
    (hWhole : Entries.get? fields label = Entries.get? whole label) :
    (branch label (Entries.get? (walkFields config fields) label)).FailsWith
      (LiesIn (.object whole)) := by
  cases fields with
  | nil => exact .done none
  | cons field fields =>
    obtain ⟨key, value⟩ := field
    rw [Entries.get?] at hWhole
    rw [walkFields, Entries.get?]
    split
    · rename_i hKey
      rw [if_pos hKey] at hWhole
      exact (walk_failsWith hForm.1).mapError fun _ hError =>
        hError.under (Json.follow?_key hWhole.symm)
    · rename_i hKey
      rw [if_neg hKey] at hWhole
      exact branch_failsWith hForm.2 hWhole

end

end Substitution

namespace Parameterizer

variable {σ : Type}

/-- Indexes count what stands in the document, not what becomes of it. -/
theorem error_liesIn_document (engine : Parameterizer σ) (document : Json)
    (hForm : document.WellFormed) (params : ParameterSet σ) (world after : World σ)
    (error : TemplateError)
    (hRun : engine.substitute document params world = (some (.error error), after)) :
    error.LiesIn document := by
  have hPlan : (Substitution.walk engine.config document).FailsWith
      (TemplateError.LiesIn document) :=
    Substitution.walk_failsWith hForm
  exact hPlan.of_run (params.answerTemplate engine.evaluator engine.config.timeout) hRun

theorem error_liesIn_document_absent_element :
    let engine : Parameterizer Unit := ⟨Config.standard, fun text _ _ world =>
      (some (if text = "b" then .error (.undefinedName text) else .ok none), world)⟩
    let document : Json := .array [.object [(evalKey, .string "a")],
      .object [(ifKey, .bool true), (thenKey, .object [(evalKey, .string "b")])]]
    let error : TemplateError :=
      ⟨.ofEvaluation "b" "b" (.undefinedName "b"), [.index 1, .key thenKey, .key evalKey]⟩
    document.WellFormed ∧
    engine.substitute document .empty ⟨(), 0⟩ = (some (.error error), ⟨(), 0⟩) ∧
    error.LiesIn document := by
  intro engine document error
  have hForm : document.WellFormed := by
    simp [document, Json.WellFormed, Json.WellFormedItems, Json.WellFormedFields, Entries.keys,
      ifKey, thenKey]
  exact ⟨hForm, rfl, error_liesIn_document engine document hForm .empty ⟨(), 0⟩ _ error rfl⟩

end Parameterizer

end ParamTree
