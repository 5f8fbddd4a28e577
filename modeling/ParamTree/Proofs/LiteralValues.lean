import ParamTree.Parameter.Filters
import ParamTree.Proofs.EvaluatedParts
import ParamTree.Proofs.Literals
import ParamTree.Proofs.Markers

/-!
# Values of literals

A value comes back when its compact text is evaluated, and when that text is the body of a marker.
Main statement: `compact_yields_value`.
-/

namespace ParamTree

variable {σ : Type}

namespace Evaluation

variable {α β : Type}

/-- The plan comes to the value and asks for nothing but the time. -/
inductive Settles : Evaluation α → α → Prop where
  | done (value : α) : Settles (.done value) value
  | inTime {plan : Evaluation α} {value : α} : Settles plan value → Settles (inTime plan) value

theorem Settles.bind {plan : Evaluation α} {value : α} {f : α → Evaluation β} {result : β}
    (h : plan.Settles value) (hf : (f value).Settles result) : (plan >>= f).Settles result := by
  induction h with
  | done value => exact hf
  | inTime _ ih =>
    rw [inTime_bind]
    exact .inTime (ih hf)

theorem Settles.run {plan : Evaluation α} {value : α} (h : plan.Settles value)
    {answer : (question : ScopeQuestion) → Act σ question.Answer} {world : World σ}
    (hTime : answer .deadline world = (some none, world)) :
    plan.run answer world = (some (.ok value), world) := by
  induction h with
  | done value => rfl
  | inTime _ ih =>
    rw [Evaluation.inTime, Plan.run, hTime]
    exact ih

end Evaluation

open Evaluation Json

theorem Number.ofNat_natAbs {value : Int} {range} (h : 0 ≤ value) :
    Number.ofNat value.natAbs = .integer value range := by
  have hMin : ((min value.natAbs 0xffffffffffffffff : Nat) : Int) = value := by omega
  simp only [Number.ofNat, hMin]

/-- The sign reaches every integer of 64 bits but the smallest, whose digits alone are too large. -/
theorem Number.negate_ofNat {value : Int} {range}
    (h : -0x8000000000000000 < value ∧ value < 0) :
    (Number.ofNat value.natAbs).negate = .integer value range := by
  have hRange : -0x8000000000000000 ≤ -value ∧ -value < 0x10000000000000000 := by omega
  have hMagnitude : Number.ofNat value.natAbs = .integer (-value) hRange := by
    rw [← Int.natAbs_neg]
    exact ofNat_natAbs (by omega)
  have hSigned : -value < 0x8000000000000000 := by omega
  have hOpposite : ofSigned? (- -value) = some (.integer value range) := by
    have hBound : value < 0x8000000000000000 := by omega
    rw [Int.neg_neg, ofSigned?, if_pos hBound, ofInt?, dif_pos range]
  rw [hMagnitude]
  simp only [negate, signed?, if_pos hSigned, Option.bind_some, hOpposite]

namespace Expr

theorem settles_literal (value : Json) : (literal value).evaluate.Settles (some value) := by
  rw [evaluate]
  exact .inTime (.done (some value))

theorem settles_ofNumber {n : Number} (h : (Json.number n).IsLiteral) :
    (ofNumber n).evaluate.Settles (some (.number n)) := by
  cases n with
  | float value => cases h
  | integer value range =>
    rw [ofNumber]
    split
    · rename_i hNegative
      rw [evaluate]
      apply Settles.inTime
      apply (settles_literal _).bind
      have hValue : Number.negate (.ofNat value.natAbs) = .integer value range :=
        Number.negate_ofNat ⟨h.1, hNegative⟩
      change Settles (Plan.done _) _
      rw [hValue]
      exact .done _
    · rename_i hPositive
      have hValue : Number.ofNat value.natAbs = .integer value range :=
        Number.ofNat_natAbs (Int.not_lt.mp hPositive)
      rw [hValue]
      exact settles_literal _

mutual

theorem settles_ofJson {value : Json} (h : value.IsLiteral) (hForm : value.WellFormed) :
    (ofJson value).evaluate.Settles (some value) := by
  cases value with
  | null | bool _ | string _ => exact settles_literal _
  | number n => exact settles_ofNumber h
  | array items =>
    rw [ofJson, evaluate]
    exact .inTime ((settles_ofItems h hForm _ 1).bind (.done _))
  | object fields =>
    obtain ⟨hKeys, hFields⟩ := hForm
    rw [ofJson, evaluate]
    apply Settles.inTime
    apply (settles_ofFields h hFields).bind
    rw [Entries.ofList_of_nodup hKeys]
    exact .done _

theorem settles_ofItems {items : List Json} (h : IsLiteralItems items)
    (hForm : WellFormedItems items) (place : Nat → Place) (position : Nat) :
    (evaluateAll place position (ofItems items)).Settles items := by
  cases items with
  | nil => exact .done []
  | cons item items =>
    rw [ofItems, evaluateAll]
    have hItem : (require (place position) (some item)).Settles item := .done item
    apply (settles_ofJson h.1 hForm.1).bind
    apply hItem.bind
    exact (settles_ofItems h.2 hForm.2 place (position + 1)).bind (.done _)

theorem settles_ofFields {fields : List (String × Json)} (h : IsLiteralFields fields)
    (hForm : WellFormedFields fields) :
    (evaluateEntries (ofFields fields)).Settles fields := by
  cases fields with
  | nil => exact .done []
  | cons field fields =>
    obtain ⟨key, value⟩ := field
    rw [ofFields, evaluateEntries]
    apply (settles_ofJson h.2.1 hForm.1).bind
    exact (settles_ofFields h.2.2 hForm.2).bind (.done _)

end

end Expr

section Text

open Segment (markerText)

variable {value : Json}

theorem Duration.not_exceeded {limit : Duration} (h : 0 < limit.nanoseconds) (now : Nat) :
    limit.exceeded now now = false := by
  rw [exceeded]
  simp only [Bool.or_eq_false_iff, decide_eq_false_iff_not]
  omega

theorem Evaluator.cooperative_compact (h : value.IsLiteral) (hForm : value.WellFormed)
    (hNesting : value.nesting ≤ 126) (params : ParameterSet σ) {limit : Duration}
    (hLimit : 0 < limit.nanoseconds) (world : World σ) :
    cooperative value.compact params limit world = (some (.ok (some value)), world) := by
  have hTime : params.answer limit world.now .deadline world = (some none, world) := by
    rw [ParameterSet.answer, Duration.not_exceeded hLimit]
    rfl
  rw [cooperative, Expr.ofText_compact h hNesting]
  exact (Expr.settles_ofJson h hForm).run hTime

theorem Evaluator.standard_compact (h : value.IsLiteral) (hForm : value.WellFormed)
    (hNesting : value.nesting ≤ 126) (params : ParameterSet σ) {limit : Duration}
    (hLimit : 0 < limit.nanoseconds) (world : World σ) :
    standard value.compact params limit world = (some (.ok (some value)), world) := by
  rw [standard, isolated, cooperative_compact h hForm hNesting params hLimit]
  simp [Duration.not_exceeded hLimit]

/-- The text that the `json` filter prints for a value evaluates to the value, and a document that
is a marker of that text becomes the value. -/
theorem Json.compact_yields_value (value : Json) (hForm : value.WellFormed) (h : value.IsLiteral)
    (hNesting : value.nesting ≤ 126) :
    Filter.json value = .ok (.string value.compact) ∧
    (∀ (params : ParameterSet σ) (limit : Duration) (world : World σ), 0 < limit.nanoseconds →
      Evaluator.cooperative value.compact params limit world = (some (.ok (some value)), world) ∧
      Evaluator.standard value.compact params limit world = (some (.ok (some value)), world)) ∧
    ∀ engine : Parameterizer σ, engine.config.dialect = .expression →
      engine.config.delimiters = Dialect.expression.delimiters →
      engine.evaluator = Evaluator.cooperative ∨ engine.evaluator = Evaluator.standard →
      0 < engine.config.timeout.nanoseconds → ∀ (params : ParameterSet σ) (world : World σ),
        engine.substitute (.string (markerText value.compact)) params world =
          (some (.ok (some value)), world) := by
  have hText := Expr.ofText_compact h hNesting
  refine ⟨rfl, ?_, ?_⟩
  · intro params limit world hLimit
    constructor
    · exact Evaluator.cooperative_compact h hForm hNesting params hLimit world
    · exact Evaluator.standard_compact h hForm hNesting params hLimit world
  · intro engine hDialect hDelimiters hEvaluator hLimit params world
    have hAnswer : engine.evaluator (Text.trim value.compact) params engine.config.timeout world =
        (some (.ok (some value)), world) := by
      obtain hEvaluator | hEvaluator := hEvaluator
      · rw [hEvaluator, Evaluator.cooperative_trim hText]
        exact Evaluator.cooperative_compact h hForm hNesting params hLimit world
      · rw [hEvaluator, Evaluator.standard_trim hText]
        exact Evaluator.standard_compact h hForm hNesting params hLimit world
    change engine.interpolate (markerText value.compact) params world = _
    rw [engine.interpolate_markerText hDialect hDelimiters hText, hAnswer]
    rfl

theorem Json.compact_yields_value_smallest_integer :
    let value : Json := .object
      [("a\x1f\"", .array [.number (.integer (-0x7fffffffffffffff) (by decide)), .object []]),
        ("b", .string "\x7d\n")]
    (value.WellFormed ∧ value.IsLiteral ∧ value.nesting ≤ 126) ∧
    value.compact =
      "\x7b\"a\\u001f\\\"\":[-9223372036854775807,\x7b\x7d],\"b\":\"\x7d\\n\"\x7d" ∧
    Evaluator.standard value.compact .empty ⟨1⟩ ⟨(), 0⟩ = (some (.ok (some value)), ⟨(), 0⟩) ∧
    (Parameterizer.isolated Config.standard).substitute (.string (markerText value.compact)) .empty
      ⟨(), 0⟩ = (some (.ok (some value)), ⟨(), 0⟩) := by
  intro value
  have hForm : value.WellFormed := by
    simp [value, WellFormed, WellFormedItems, WellFormedFields, Entries.keys]
  have hLiteral : value.IsLiteral := by
    simp [value, IsLiteral, IsLiteralItems, IsLiteralFields, Text.HasSharedEscapes]
  have hNesting : value.nesting ≤ 126 := by
    decide
  obtain ⟨-, hEvaluate, hSubstitute⟩ := @compact_yields_value Unit value hForm hLiteral hNesting
  refine ⟨⟨hForm, hLiteral, hNesting⟩, by decide +kernel, (hEvaluate _ _ _ (by decide)).2, ?_⟩
  exact hSubstitute (.isolated Config.standard) rfl rfl (.inr rfl) (by decide) _ _

end Text

end ParamTree
