import ParamTree.Proofs.Course
import ParamTree.Template.Directive
import ParamTree.Template.Segment
import ParamTree.Value.Arithmetic

/-!
# The course of a document

The course that a document gives to the calls of its evaluator: markers from left to right, keys
before their values, entries and elements in order, and of a directive its deciding field and the
branch that it selects. A failure ends the course of a strict document. In a lenient one a marker
that fails is passed over, and a directive that fails goes on as a plain object. The course is made
from the texts of the document alone; results decide about branches and failures, but no text of a
result is ever looked at.

Main statements: the course is deterministic, its expressions stand in the document in the same
order, and without directives a course that is completed leaves none of them out.
-/

namespace ParamTree

namespace Course

/-- One of several pieces of a text: its result has to be a scalar. -/
def ofMarker (config : Config) (expression : String) : Course :=
  call expression
    (fun result => if (result.bind Json.scalarText?).isSome then silent else failure config)
    (failure config)

def ofPieces (config : Config) : List Segment → Course
  | [] => silent
  | .literal _ :: rest => ofPieces config rest
  | .marker _ body :: rest => (ofMarker config (Text.trim body)).andThen (ofPieces config rest)

/-- A marker that is the whole text may have any result. -/
def ofSegments (config : Config) : List Segment → Course
  | [.marker _ body] => call (Text.trim body) (fun _ => silent) (failure config)
  | segments => ofPieces config segments

def ofText (config : Config) (text : String) : Course :=
  ofSegments config (Segment.scan config.delimiters text)

/-- The deciding field of a directive. Only a text is called. -/
def ofDecision (unable : Course) (next : Option Json → Course) : Json → Course
  | .string text => call text next unable
  | value => next (some value)

/-- A directive, given what follows when it fails, its entries as those of a plain object, and the
values of its entries. -/
def ofDirective (unable plain : Course) (branch : String → Course) : Directive Json → Course
  | .conditional condition _ _ =>
    ofDecision unable (fun result => branch (if truthy result then thenKey else elseKey)) condition
  | .selection selector _ =>
    ofDecision unable (fun result =>
      match result with
      | none => silent
      | some value =>
        match value.scalarText? with
        | none => unable
        | some label => if label = switchKey then silent else branch label) selector
  | .evaluation expression => ofDecision unable (fun _ => silent) expression
  | .plain => plain

mutual

def ofJson (config : Config) : Json → Course
  | .string text => ofText config text
  | .array items => ofItems config items
  | .object fields =>
    ofDirective (if config.isLenient then ofFields config fields else stuck)
      (ofFields config fields) (fun label => ofBranch config label fields)
      (Directive.classify fields)
  | .null | .bool _ | .number _ => silent

def ofItems (config : Config) : List Json → Course
  | [] => silent
  | item :: items => (ofJson config item).andThen (ofItems config items)

def ofFields (config : Config) : List (String × Json) → Course
  | [] => silent
  | (key, value) :: fields =>
    (ofText config key).andThen ((ofJson config value).andThen (ofFields config fields))

def ofBranch (config : Config) (label : String) : List (String × Json) → Course
  | [] => silent
  | (key, value) :: fields =>
    if key = label then ofJson config value else ofBranch config label fields

end

end Course

def Segment.expression? : Segment → Option String
  | .literal _ => none
  | .marker _ body => some (Text.trim body)

def Config.expressionsOf (config : Config) (text : String) : List String :=
  (Segment.scan config.delimiters text).filterMap Segment.expression?

def Directive.expression? : Directive Json → Option String
  | .conditional condition _ _ => condition.string?
  | .selection selector _ => selector.string?
  | .evaluation expression => expression.string?
  | .plain => none

namespace Json

mutual

/-- The expressions that are written in a document, in the order of the text. The deciding field of
a directive stands before the entries. -/
def expressions (config : Config) : Json → List String
  | .string text => config.expressionsOf text
  | .array items => itemExpressions config items
  | .object fields =>
    (Directive.classify fields).expression?.toList ++ fieldExpressions config fields
  | .null | .bool _ | .number _ => []

def itemExpressions (config : Config) : List Json → List String
  | [] => []
  | item :: items => expressions config item ++ itemExpressions config items

def fieldExpressions (config : Config) : List (String × Json) → List String
  | [] => []
  | (key, value) :: fields =>
    config.expressionsOf key ++ (expressions config value ++ fieldExpressions config fields)

end

mutual

def WithoutDirectives : Json → Prop
  | .array items => ItemsWithoutDirectives items
  | .object fields => Directive.classify fields = .plain ∧ FieldsWithoutDirectives fields
  | .null | .bool _ | .number _ | .string _ => True

def ItemsWithoutDirectives : List Json → Prop
  | [] => True
  | item :: items => WithoutDirectives item ∧ ItemsWithoutDirectives items

def FieldsWithoutDirectives : List (String × Json) → Prop
  | [] => True
  | (_, value) :: fields => WithoutDirectives value ∧ FieldsWithoutDirectives fields

end

end Json

namespace Course

variable (config : Config)

theorem ofMarker_deterministic (expression : String) :
    Deterministic (ofMarker config expression) := by
  apply Deterministic.call _ _ (.failure config)
  intro result
  split
  · exact .silent
  · exact .failure config

theorem ofPieces_deterministic (segments : List Segment) :
    Deterministic (ofPieces config segments) := by
  induction segments with
  | nil => exact .silent
  | cons segment rest ih =>
    cases segment with
    | literal text => exact ih
    | marker raw body => exact (ofMarker_deterministic config _).andThen ih

theorem ofText_deterministic (text : String) : Deterministic (ofText config text) := by
  rw [ofText, ofSegments.eq_def]
  split
  · exact .call _ (fun _ => .silent) (.failure config)
  · exact ofPieces_deterministic config _

theorem ofDecision_deterministic {unable : Course} {next : Option Json → Course}
    (hUnable : Deterministic unable) (hNext : ∀ result, Deterministic (next result))
    (field : Json) : Deterministic (ofDecision unable next field) := by
  cases field with
  | string text => exact .call text hNext hUnable
  | null | bool _ | number _ | array _ | object _ => exact hNext _

theorem ofDirective_deterministic {unable plain : Course} {branch : String → Course}
    (hUnable : Deterministic unable) (hPlain : Deterministic plain)
    (hBranch : ∀ label, Deterministic (branch label)) (directive : Directive Json) :
    Deterministic (ofDirective unable plain branch directive) := by
  cases directive with
  | conditional condition yes no =>
    exact ofDecision_deterministic hUnable (fun result => hBranch _) condition
  | selection selector cases =>
    apply ofDecision_deterministic hUnable
    intro result
    split
    · exact .silent
    · split
      · exact hUnable
      · split
        · exact .silent
        · exact hBranch _
  | evaluation expression =>
    exact ofDecision_deterministic hUnable (fun _ => .silent) expression
  | plain => exact hPlain

mutual

theorem ofJson_deterministic (document : Json) : Deterministic (ofJson config document) := by
  cases document with
  | string text => exact ofText_deterministic config text
  | array items => exact ofItems_deterministic items
  | object fields =>
    refine ofDirective_deterministic ?_ (ofFields_deterministic fields)
      (fun label => ofBranch_deterministic label fields) _
    split
    · exact ofFields_deterministic fields
    · exact .stuck
  | null | bool _ | number _ => exact .silent

theorem ofItems_deterministic (items : List Json) : Deterministic (ofItems config items) := by
  cases items with
  | nil => exact .silent
  | cons item items => exact (ofJson_deterministic item).andThen (ofItems_deterministic items)

theorem ofFields_deterministic (fields : List (String × Json)) :
    Deterministic (ofFields config fields) := by
  cases fields with
  | nil => exact .silent
  | cons field fields =>
    obtain ⟨key, value⟩ := field
    exact (ofText_deterministic config key).andThen
      ((ofJson_deterministic value).andThen (ofFields_deterministic fields))

theorem ofBranch_deterministic (label : String) (fields : List (String × Json)) :
    Deterministic (ofBranch config label fields) := by
  cases fields with
  | nil => exact .silent
  | cons field fields =>
    obtain ⟨key, value⟩ := field
    rw [ofBranch]
    split
    · exact ofJson_deterministic value
    · exact ofBranch_deterministic label fields

end

theorem ofMarker_within (expression : String) : Within (ofMarker config expression) [expression] := by
  apply Within.call _ (.failure config _)
  intro result
  split
  · exact .silent _
  · exact .failure config _

theorem ofPieces_within (segments : List Segment) :
    Within (ofPieces config segments) (segments.filterMap Segment.expression?) := by
  induction segments with
  | nil => exact .silent _
  | cons segment rest ih =>
    cases segment with
    | literal text => exact ih
    | marker raw body => exact (ofMarker_within config _).andThen ih

theorem ofText_within (text : String) : Within (ofText config text) (config.expressionsOf text) := by
  rw [ofText, Config.expressionsOf]
  generalize Segment.scan config.delimiters text = segments
  rw [ofSegments.eq_def]
  split
  · exact .call (fun _ => .silent _) (.failure config _)
  · exact ofPieces_within config _

theorem ofDecision_within {unable : Course} {next : Option Json → Course}
    {expressions : List String} (hUnable : Within unable expressions)
    (hNext : ∀ result, Within (next result) expressions) (field : Json) :
    Within (ofDecision unable next field) (field.string?.toList ++ expressions) := by
  cases field with
  | string text => exact .call hNext hUnable
  | null | bool _ | number _ | array _ | object _ => exact hNext _

theorem ofDirective_within {unable plain : Course} {branch : String → Course}
    {expressions : List String} (hUnable : Within unable expressions)
    (hPlain : Within plain expressions) (hBranch : ∀ label, Within (branch label) expressions)
    (directive : Directive Json) : Within (ofDirective unable plain branch directive)
      (directive.expression?.toList ++ expressions) := by
  cases directive with
  | conditional condition yes no =>
    exact ofDecision_within hUnable (fun result => hBranch _) condition
  | selection selector cases =>
    apply ofDecision_within hUnable
    intro result
    split
    · exact .silent _
    · split
      · exact hUnable
      · split
        · exact .silent _
        · exact hBranch _
  | evaluation expression => exact ofDecision_within hUnable (fun _ => .silent _) expression
  | plain => exact hPlain

mutual

theorem ofJson_within (document : Json) :
    Within (ofJson config document) (document.expressions config) := by
  cases document with
  | string text => exact ofText_within config text
  | array items => exact ofItems_within items
  | object fields =>
    refine ofDirective_within ?_ (ofFields_within fields)
      (fun label => ofBranch_within label fields) _
    split
    · exact ofFields_within fields
    · exact .stuck _
  | null | bool _ | number _ => exact .silent _

theorem ofItems_within (items : List Json) :
    Within (ofItems config items) (Json.itemExpressions config items) := by
  cases items with
  | nil => exact .silent _
  | cons item items => exact (ofJson_within item).andThen (ofItems_within items)

theorem ofFields_within (fields : List (String × Json)) :
    Within (ofFields config fields) (Json.fieldExpressions config fields) := by
  cases fields with
  | nil => exact .silent _
  | cons field fields =>
    obtain ⟨key, value⟩ := field
    exact (ofText_within config key).andThen ((ofJson_within value).andThen (ofFields_within fields))

theorem ofBranch_within (label : String) (fields : List (String × Json)) :
    Within (ofBranch config label fields) (Json.fieldExpressions config fields) := by
  cases fields with
  | nil => exact .silent _
  | cons field fields =>
    obtain ⟨key, value⟩ := field
    rw [ofBranch, Json.fieldExpressions]
    split
    · exact (ofJson_within value).mono
        ((List.sublist_append_left _ _).trans (List.sublist_append_right _ _))
    · exact (ofBranch_within label fields).mono
        ((List.sublist_append_right _ _).trans (List.sublist_append_right _ _))

end

theorem ofMarker_exhausts (expression : String) :
    Exhausts (ofMarker config expression) [expression] := by
  apply Exhausts.call _ (.failure config)
  intro result
  split
  · exact .silent
  · exact .failure config

theorem ofPieces_exhausts (segments : List Segment) :
    Exhausts (ofPieces config segments) (segments.filterMap Segment.expression?) := by
  induction segments with
  | nil => exact .silent
  | cons segment rest ih =>
    cases segment with
    | literal text => exact ih
    | marker raw body => exact (ofMarker_exhausts config _).andThen ih

theorem ofText_exhausts (text : String) :
    Exhausts (ofText config text) (config.expressionsOf text) := by
  rw [ofText, Config.expressionsOf]
  generalize Segment.scan config.delimiters text = segments
  rw [ofSegments.eq_def]
  split
  · exact .call (fun _ => .silent) (.failure config)
  · exact ofPieces_exhausts config _

mutual

theorem ofJson_exhausts {document : Json} (h : document.WithoutDirectives) :
    Exhausts (ofJson config document) (document.expressions config) := by
  cases document with
  | string text => exact ofText_exhausts config text
  | array items => exact ofItems_exhausts h
  | object fields =>
    obtain ⟨hPlain, hFields⟩ := h
    rw [ofJson, Json.expressions, hPlain]
    exact ofFields_exhausts hFields
  | null | bool _ | number _ => exact .silent

theorem ofItems_exhausts {items : List Json} (h : Json.ItemsWithoutDirectives items) :
    Exhausts (ofItems config items) (Json.itemExpressions config items) := by
  cases items with
  | nil => exact .silent
  | cons item items => exact (ofJson_exhausts h.1).andThen (ofItems_exhausts h.2)

theorem ofFields_exhausts {fields : List (String × Json)} (h : Json.FieldsWithoutDirectives fields) :
    Exhausts (ofFields config fields) (Json.fieldExpressions config fields) := by
  cases fields with
  | nil => exact .silent
  | cons field fields =>
    obtain ⟨key, value⟩ := field
    exact (ofText_exhausts config key).andThen
      ((ofJson_exhausts h.1).andThen (ofFields_exhausts h.2))

end

end Course

end ParamTree
