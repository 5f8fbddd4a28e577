import ParamTree.Proofs.Lenience
import ParamTree.Proofs.WalkedFields

/-!
# Agreement of strict and lenient documents

A lenient plan differs from the strict one only behind the first failure. Main statement:
`strict_lenient_agree`, by which a strict document that has a result has the same one when it is
lenient, after the same exchanges and in the same world.
-/

namespace ParamTree

namespace Plan

variable {I : Interface} {ε α β σ : Type}

/-- The second plan does what the first one does, up to the place where the first one fails. -/
inductive ExtendedBy : Plan I ε α → Plan I ε α → Prop where
  | done (value : α) : ExtendedBy (.done value) (.done value)
  | fail (error : ε) (other : Plan I ε α) : ExtendedBy (.fail error) other
  | ask {question : I.Question} {next next' : I.Answer question → Plan I ε α} :
    (∀ answer, ExtendedBy (next answer) (next' answer)) →
    ExtendedBy (.ask question next) (.ask question next')

namespace ExtendedBy

theorem refl (plan : Plan I ε α) : plan.ExtendedBy plan := by
  induction plan with
  | done value => exact .done value
  | fail error => exact .fail error _
  | ask question next ih => exact .ask ih

theorem bind {plan other : Plan I ε α} {f g : α → Plan I ε β} (h : plan.ExtendedBy other)
    (hf : ∀ value, (f value).ExtendedBy (g value)) : (plan >>= f).ExtendedBy (other >>= g) := by
  induction h with
  | done value => exact hf value
  | fail error other => exact .fail error _
  | ask _ ih => exact .ask ih

theorem mapError {plan other : Plan I ε α} (h : plan.ExtendedBy other) (f : ε → ε) :
    (plan.mapError f).ExtendedBy (other.mapError f) := by
  induction h with
  | done value => exact .done value
  | fail error other => exact .fail (f error) _
  | ask _ ih => exact .ask ih

theorem recover {plan other : Plan I ε α} (h : plan.ExtendedBy other) (f : ε → Plan I ε α) :
    plan.ExtendedBy (other.recover f) := by
  induction h with
  | done value => exact .done value
  | fail error other => exact .fail error _
  | ask _ ih => exact .ask ih

/-- A run that does not fail is a run of the longer plan too. -/
theorem run_eq {plan other : Plan I ε α} (h : plan.ExtendedBy other)
    (answer : (question : I.Question) → Act σ (I.Answer question)) {world after : World σ}
    {value : α} (hRun : plan.run answer world = (some (.ok value), after)) :
    other.run answer world = (some (.ok value), after) ∧
      other.exchanges answer world = plan.exchanges answer world := by
  induction h generalizing world with
  | done value => exact ⟨hRun, rfl⟩
  | fail error other => cases hRun
  | @ask question next next' _ ih =>
    rcases hAnswer : answer question world with ⟨_ | reply, behind⟩
    · rw [run_ask_crashed answer hAnswer] at hRun
      cases hRun
    · rw [run_ask_answered answer hAnswer] at hRun
      obtain ⟨hSame, hExchanges⟩ := ih reply hRun
      constructor
      · rw [run_ask_answered answer hAnswer, hSame]
      · rw [exchanges_ask_answered answer hAnswer, exchanges_ask_answered answer hAnswer,
          hExchanges]

end ExtendedBy

end Plan

open Plan

theorem Template.orKeep_extendedBy {α : Type} {config : Config} (hStrict : config.isLenient = false)
    {plan other : Template α} (h : plan.ExtendedBy other) (kept kept' : Template α) :
    (Template.orKeep config.isLenient plan kept).ExtendedBy
      (Template.orKeep config.lenient.isLenient other kept') := by
  rw [Template.orKeep, hStrict]
  exact h.recover fun _ => kept'

namespace Interpolation

variable {config : Config} (hStrict : config.isLenient = false)
include hStrict

theorem spliceSegments_extendedBy (fragment : String) (segments : List Segment) :
    (spliceSegments config fragment segments).ExtendedBy
      (spliceSegments config.lenient fragment segments) := by
  induction segments with
  | nil => exact .done ""
  | cons segment rest ih =>
    cases segment with
    | literal text => exact ih.bind fun _ => .done _
    | marker raw body =>
      have hMarker := Template.orKeep_extendedBy hStrict
        (ExtendedBy.refl (splice config body fragment)) (.done raw) (.done raw)
      exact hMarker.bind fun _ => ih.bind fun _ => .done _

theorem ofSegments_extendedBy (text : String) (segments : List Segment) :
    (ofSegments config text segments).ExtendedBy (ofSegments config.lenient text segments) := by
  have hDialect : config.lenient.dialect = config.dialect := rfl
  have hPieces := (spliceSegments_extendedBy hStrict text segments).bind
    fun result => ExtendedBy.done (some (Json.string result))
  rw [ofSegments.eq_def, ofSegments.eq_def, hDialect]
  cases config.dialect with
  | pipeline => exact hPieces
  | expression =>
    rcases segments with _ | ⟨_ | ⟨raw, body⟩, _ | ⟨second, rest⟩⟩
    case cons.marker.nil => exact Template.orKeep_extendedBy hStrict (.refl _) _ _
    all_goals exact hPieces

theorem interpolate_extendedBy (text : String) :
    (interpolate config text).ExtendedBy (interpolate config.lenient text) := by
  have hSegments := ofSegments_extendedBy hStrict text (Segment.scan config.delimiters text)
  rw [interpolate, interpolate, show config.lenient.delimiters = config.delimiters from rfl]
  split
  · exact hSegments
  · exact .done _

end Interpolation

namespace Substitution

theorem resolveKey_extendedBy {config : Config} (hStrict : config.isLenient = false)
    (key : String) :
    (resolveKey config key).ExtendedBy (resolveKey config.lenient key) := by
  apply (Interpolation.interpolate_extendedBy hStrict key).bind
  intro result
  exact .refl _

/-- An object is extended if its entries and its branches are. -/
theorem object_extendedBy {config : Config} (hStrict : config.isLenient = false)
    {fields : List (String × Json)}
    (hEntries : (entries config (walkFields config fields)).ExtendedBy
      (entries config.lenient (walkFields config.lenient fields)))
    (hBranch : ∀ label, (branch label (Entries.get? (walkFields config fields) label)).ExtendedBy
      (branch label (Entries.get? (walkFields config.lenient fields) label))) :
    (object config (walkFields config fields)).ExtendedBy
      (object config.lenient (walkFields config.lenient fields)) := by
  apply Template.orKeep_extendedBy hStrict
  rw [classify_walkFields, classify_walkFields]
  cases Directive.classify fields with
  | conditional condition yes no =>
    apply (ExtendedBy.refl _).bind
    intro result
    split
    · exact hBranch thenKey
    · exact hBranch elseKey
  | selection selector cases =>
    apply (ExtendedBy.refl _).bind
    intro result
    cases result with
    | none => exact .done none
    | some value =>
      apply (ExtendedBy.refl _).bind
      intro label
      by_cases hLabel : label = switchKey
      · rw [if_pos hLabel, if_pos hLabel]
        exact .done none
      · rw [if_neg hLabel, if_neg hLabel]
        exact hBranch label
  | evaluation expression => exact .refl _
  | plain => exact hEntries.bind fun _ => .done _

mutual

theorem walk_extendedBy {config : Config} (hStrict : config.isLenient = false) (document : Json) :
    (walk config document).ExtendedBy (walk config.lenient document) := by
  cases document with
  | string text => exact Interpolation.interpolate_extendedBy hStrict text
  | array items => exact (elements_extendedBy hStrict items 0).bind fun _ => .done _
  | object fields =>
    exact object_extendedBy hStrict (entries_extendedBy hStrict fields)
      (branch_extendedBy hStrict fields)
  | null | bool _ | number _ => exact .done _

theorem elements_extendedBy {config : Config} (hStrict : config.isLenient = false)
    (items : List Json) (position : Nat) :
    (elements position (walkItems config items)).ExtendedBy
      (elements position (walkItems config.lenient items)) := by
  cases items with
  | nil => exact .done []
  | cons item items =>
    apply ((walk_extendedBy hStrict item).mapError _).bind
    intro result
    apply (elements_extendedBy hStrict items (position + 1)).bind
    intro values
    exact .refl _

theorem entries_extendedBy {config : Config} (hStrict : config.isLenient = false)
    (fields : List (String × Json)) :
    (entries config (walkFields config fields)).ExtendedBy
      (entries config.lenient (walkFields config.lenient fields)) := by
  cases fields with
  | nil => exact .done []
  | cons field fields =>
    obtain ⟨key, value⟩ := field
    apply ((resolveKey_extendedBy hStrict key).mapError _).bind
    intro name
    apply ((walk_extendedBy hStrict value).mapError _).bind
    intro result
    apply (entries_extendedBy hStrict fields).bind
    intro others
    exact .refl _

theorem branch_extendedBy {config : Config} (hStrict : config.isLenient = false)
    (fields : List (String × Json)) (label : String) :
    (branch label (Entries.get? (walkFields config fields) label)).ExtendedBy
      (branch label (Entries.get? (walkFields config.lenient fields) label)) := by
  cases fields with
  | nil => exact .done none
  | cons field fields =>
    obtain ⟨key, value⟩ := field
    rw [walkFields, walkFields, Entries.get?, Entries.get?]
    split
    · exact (walk_extendedBy hStrict value).mapError _
    · exact branch_extendedBy hStrict fields label

end

end Substitution

namespace Parameterizer

variable {σ : Type}

/-- The same engine, with a configuration that keeps what cannot be resolved. -/
def lenient (engine : Parameterizer σ) : Parameterizer σ :=
  { engine with config := engine.config.lenient }

/-- Nothing that a strict document with a result does is different when it is lenient. The worlds
hold what the evaluator and the callables did, so they were called in the same states. -/
theorem strict_lenient_agree (engine : Parameterizer σ) (hStrict : engine.config.policy = .strict)
    (document : Json) (params : ParameterSet σ) (world after : World σ) (result : Option Json)
    (hRun : engine.substitute document params world = (some (.ok result), after)) :
    engine.lenient.substitute document params world = (some (.ok result), after) ∧
      engine.lenient.exchanges document params world = engine.exchanges document params world := by
  have hPlan : (Substitution.walk engine.config document).ExtendedBy
      (Substitution.walk engine.config.lenient document) :=
    Substitution.walk_extendedBy (by rw [Config.isLenient, hStrict]; rfl) document
  exact hPlan.run_eq (params.answerTemplate engine.evaluator engine.config.timeout) hRun

theorem strict_lenient_agree_counting_evaluator :
    let engine : Parameterizer Nat := ⟨Config.standard, fun _ _ _ world =>
      (some (.ok (some (.ofNat world.state))), ⟨world.state + 1, world.now⟩)⟩
    let document : Json := .array [.object [(evalKey, .string "a")],
      .object [(switchKey, .string "b"), ("1", .object [(evalKey, .string "c")])]]
    let result : Option Json := some (.array [.ofNat 0, .ofNat 2])
    engine.config.policy = .strict ∧
    engine.substitute document .empty ⟨0, 0⟩ = (some (.ok result), ⟨3, 0⟩) ∧
    engine.lenient.substitute document .empty ⟨0, 0⟩ = (some (.ok result), ⟨3, 0⟩) ∧
    engine.lenient.exchanges document .empty ⟨0, 0⟩ = engine.exchanges document .empty ⟨0, 0⟩ :=
  ⟨rfl, rfl, strict_lenient_agree _ rfl _ _ _ _ _ rfl⟩

end Parameterizer

end ParamTree
