import ParamTree.Proofs.Lenience

/-!
# Documents without templates

A document in which no object has a reserved key and no text has a marker stays as it is, down to
the kinds of its numbers and the order of its keys. Nothing is asked for such a document. Main
statement: `substitute_templateFree`.
-/

namespace ParamTree

/-- The keys that make an object a directive. -/
def reservedKeys : List String :=
  [ifKey, switchKey, evalKey]

/-- The scanner finds no marker in the text. -/
def Segment.Unmarked (delimiters : Delimiters) (text : String) : Prop :=
  ∀ segment ∈ scan delimiters text, segment.isMarker = false

instance (delimiters : Delimiters) : DecidablePred (Segment.Unmarked delimiters) := fun text =>
  inferInstanceAs (Decidable (∀ segment ∈ Segment.scan delimiters text, segment.isMarker = false))

namespace Json

variable (delimiters : Delimiters)

mutual

/-- No object has a reserved key, and no text or key has a marker. -/
def TemplateFree : Json → Prop
  | .string text => Segment.Unmarked delimiters text
  | .array items => TemplateFreeItems items
  | .object fields => TemplateFreeFields fields
  | .null | .bool _ | .number _ => True

def TemplateFreeItems : List Json → Prop
  | [] => True
  | item :: items => TemplateFree item ∧ TemplateFreeItems items

def TemplateFreeFields : List (String × Json) → Prop
  | [] => True
  | (key, value) :: fields =>
    (key ∉ reservedKeys ∧ Segment.Unmarked delimiters key) ∧ TemplateFree value ∧
      TemplateFreeFields fields

end

theorem get?_reserved {delimiters : Delimiters} {fields : List (String × Json)}
    (h : TemplateFreeFields delimiters fields) {key : String} (hKey : key ∈ reservedKeys) :
    Entries.get? fields key = none := by
  induction fields with
  | nil => rfl
  | cons field fields ih =>
    obtain ⟨name, value⟩ := field
    obtain ⟨⟨hName, -⟩, -, hFields⟩ := h
    have hNe : name ≠ key := by
      rintro rfl
      exact hName hKey
    rw [Entries.get?, if_neg hNe]
    exact ih hFields

theorem classify_templateFree {delimiters : Delimiters} {fields : List (String × Json)}
    (h : TemplateFreeFields delimiters fields) : Directive.classify fields = .plain := by
  rw [Directive.classify, get?_reserved h (by decide), get?_reserved h (by decide),
    get?_reserved h (by decide)]

end Json

theorem Interpolation.interpolate_unmarked {config : Config} {text : String}
    (h : Segment.Unmarked config.delimiters text) :
    interpolate config text = .done (some (.string text)) := by
  have hNone : ¬(Segment.scan config.delimiters text).any Segment.isMarker = true := by
    intro hAny
    obtain ⟨segment, hMem, hMarker⟩ := List.any_eq_true.mp hAny
    rw [h segment hMem] at hMarker
    cases hMarker
  exact if_neg hNone

namespace Substitution

open Json

variable {config : Config}

theorem resolveKey_unmarked {key : String} (h : Segment.Unmarked config.delimiters key) :
    resolveKey config key = .done key := by
  rw [resolveKey, Interpolation.interpolate_unmarked h]
  rfl

/-- An object without reserved keys is rebuilt from its entries, in either policy. -/
theorem object_templateFree {fields : List (String × Json)} (hKeys : (Entries.keys fields).Nodup)
    (h : TemplateFreeFields config.delimiters fields)
    (hEntries : entries config (walkFields config fields) = .done fields) :
    object config (walkFields config fields) = .done (some (.object fields)) := by
  have hMapping : mapping config (walkFields config fields) = .done (some (.object fields)) := by
    rw [mapping, hEntries, Plan.done_bind, Entries.ofList_of_nodup hKeys]
    rfl
  rw [object, classify_walkFields, classify_templateFree h, walkedDirective, directive, hMapping,
    Template.orKeep]
  split
  · rfl
  · rfl

mutual

theorem walk_templateFree {document : Json} (hForm : document.WellFormed)
    (h : document.TemplateFree config.delimiters) :
    walk config document = .done (some document) := by
  cases document with
  | null | bool _ | number _ => rfl
  | string text => exact Interpolation.interpolate_unmarked h
  | array items =>
    rw [walk, elements_templateFree hForm h 0]
    rfl
  | object fields =>
    obtain ⟨hKeys, hFields⟩ := hForm
    exact object_templateFree hKeys h (entries_templateFree hFields h)

theorem elements_templateFree {items : List Json} (hForm : WellFormedItems items)
    (h : TemplateFreeItems config.delimiters items) (position : Nat) :
    elements position (walkItems config items) = .done items := by
  cases items with
  | nil => rfl
  | cons item items =>
    rw [walkItems, elements, walk_templateFree hForm.1 h.1,
      elements_templateFree hForm.2 h.2 (position + 1)]
    rfl

theorem entries_templateFree {fields : List (String × Json)} (hForm : WellFormedFields fields)
    (h : TemplateFreeFields config.delimiters fields) :
    entries config (walkFields config fields) = .done fields := by
  cases fields with
  | nil => rfl
  | cons field fields =>
    obtain ⟨key, value⟩ := field
    obtain ⟨⟨-, hKey⟩, hValue, hFields⟩ := h
    rw [walkFields, entries, resolveKey_unmarked hKey, walk_templateFree hForm.1 hValue,
      entries_templateFree hForm.2 hFields]
    rfl

end

end Substitution

namespace Parameterizer

variable {σ : Type}

/-- A document without templates is its own result, whatever the configuration, the parameters and
the evaluator are, and the run asks neither of them for anything. -/
theorem substitute_templateFree (engine : Parameterizer σ) (document : Json)
    (hForm : document.WellFormed) (h : document.TemplateFree engine.config.delimiters)
    (params : ParameterSet σ) (world : World σ) :
    engine.substitute document params world = (some (.ok (some document)), world) ∧
      engine.exchanges document params world = [] := by
  have hPlan := Substitution.walk_templateFree hForm h
  constructor
  · rw [substitute, perform, hPlan]
    rfl
  · rw [exchanges, hPlan]
    rfl

theorem substitute_templateFree_unclosed_marker :
    let engine : Parameterizer Unit := ⟨Config.standard.lenient, fun _ _ _ world => (none, world)⟩
    let document : Json := .object [("b$", .string "$\x7b'\x7d"),
      ("a\x7d", .array [.number (.float .zero), .object [("then", .string "\x7d 'a\" $ \x7b")]])]
    (document.WellFormed ∧ document.TemplateFree engine.config.delimiters) ∧
    engine.substitute document .empty ⟨(), 0⟩ = (some (.ok (some document)), ⟨(), 0⟩) ∧
    engine.exchanges document .empty ⟨(), 0⟩ = [] := by
  intro engine document
  have hForm : document.WellFormed := by
    simp [document, Json.WellFormed, Json.WellFormedItems, Json.WellFormedFields, Entries.keys]
  have hOpen : Segment.Unmarked engine.config.delimiters "$\x7b'\x7d" := by decide +kernel
  have hStray : Segment.Unmarked engine.config.delimiters "\x7d 'a\" $ \x7b" := by decide +kernel
  have hKeys : ∀ key ∈ ["b$", "a\x7d", "then"],
      key ∉ reservedKeys ∧ Segment.Unmarked engine.config.delimiters key := by decide +kernel
  have hFree : document.TemplateFree engine.config.delimiters := by
    simp only [List.forall_mem_cons] at hKeys
    exact ⟨hKeys.1, hOpen, hKeys.2.1, ⟨trivial, ⟨hKeys.2.2.1, hStray, trivial⟩, trivial⟩, trivial⟩
  exact ⟨⟨hForm, hFree⟩, substitute_templateFree engine document hForm hFree _ _⟩

end Parameterizer

end ParamTree
