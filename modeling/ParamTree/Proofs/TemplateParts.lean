import ParamTree.Proofs.Exchange
import ParamTree.Proofs.WalkedFields

/-!
# The parts of templates

What holds of the plans of expressions and of pipelines, and of plans put together from plans of
which it holds, holds of the plan of every document. Main statement: `ClosedUnderTemplate.walk`.
-/

namespace ParamTree

namespace Template

variable {σ γ : Type} (answer : (question : TemplateQuestion) → Act σ question.Answer)
  (note : TemplateQuestion → World σ → List γ) (expression fragment : String) (world : World σ)

theorem run_evaluate :
    (evaluate expression fragment).run answer world =
      ((answer (.evaluate expression) world).1.map
          (Except.mapError fun cause => .ofFault (.ofEvaluation expression fragment cause)),
        (answer (.evaluate expression) world).2) := by
  rw [evaluate, Plan.run]
  rcases answer (.evaluate expression) world with ⟨_ | _ | _, after⟩ <;> rfl

theorem trace_evaluate :
    (evaluate expression fragment).trace answer note world = note (.evaluate expression) world := by
  rw [evaluate, Plan.trace]
  rcases answer (.evaluate expression) world with ⟨_ | _ | _, after⟩ <;> exact List.append_nil _

end Template

open Template Substitution

/-- What holds of the plans that ask something, and of those put together from others of which it
holds. -/
structure ClosedUnderTemplate (config : Config) (P : {α : Type} → Template α → Prop) : Prop where
  done {α : Type} (value : α) : P (.done value : Template α)
  fault {α : Type} (f : TemplateFault) : P (Template.fault f : Template α)
  bind {α β : Type} {plan : Template α} {f : α → Template β} :
    P plan → (∀ value, P (f value)) → P (plan >>= f)
  under {α : Type} (segment : PathSegment) {plan : Template α} :
    P plan → P (Template.under segment plan)
  orKeep {α : Type} {plan kept : Template α} :
    P plan → P kept → P (Template.orKeep config.isLenient plan kept)
  evaluate (expression fragment : String) : P (Template.evaluate expression fragment)
  pipeline (body fragment : String) : config.dialect = .pipeline → P (Pipeline.run body fragment)

namespace ClosedUnderTemplate

variable {config : Config} {P : {α : Type} → Template α → Prop} (h : ClosedUnderTemplate config P)
include h

theorem spliceText (result : Option Json) (expression fragment : String) :
    P (Interpolation.spliceText result expression fragment) := by
  rw [Interpolation.spliceText]
  split
  · exact h.done _
  · exact h.fault _

theorem splice (body fragment : String) : P (Interpolation.splice config body fragment) := by
  rw [Interpolation.splice.eq_def]
  cases hDialect : config.dialect with
  | expression => exact h.bind (h.evaluate _ fragment) fun _ => h.spliceText _ _ fragment
  | pipeline => exact h.bind (h.pipeline body fragment hDialect) fun _ => h.spliceText _ _ fragment

theorem spliceSegments (fragment : String) (segments : List Segment) :
    P (Interpolation.spliceSegments config fragment segments) := by
  induction segments with
  | nil => exact h.done ""
  | cons segment rest ih =>
    cases segment with
    | literal text => exact h.bind ih fun _ => h.done _
    | marker raw body =>
      apply h.bind (h.orKeep (h.splice body fragment) (h.done raw))
      intro text
      exact h.bind ih fun _ => h.done _

theorem interpolate (text : String) : P (Interpolation.interpolate config text) := by
  rw [Interpolation.interpolate]
  split
  · rw [Interpolation.ofSegments.eq_def]
    split
    · exact h.orKeep (h.evaluate _ text) (h.done _)
    · exact h.bind (h.spliceSegments text _) fun _ => h.done _
  · exact h.done _

theorem resolveKey (key : String) : P (resolveKey config key) := by
  apply h.bind (h.interpolate key)
  intro result
  split <;> exact h.done _

theorem decision (field : Json) : P (decision field) := by
  cases field with
  | string text => exact h.evaluate text text
  | null | bool _ | number _ | array _ | object _ => exact h.done _

theorem branch {fields : List (String × Field)} (hFields : ∀ field ∈ fields, P field.2.2)
    (label : String) : P (branch label (Entries.get? fields label)) := by
  induction fields with
  | nil => exact h.done none
  | cons field fields ih =>
    rw [Entries.get?]
    split
    · exact h.under _ (hFields field List.mem_cons_self)
    · exact ih fun other hOther => hFields other (List.mem_cons_of_mem _ hOther)

theorem elements {items : List (Template (Option Json))} (hItems : ∀ item ∈ items, P item)
    (position : Nat) : P (elements position items) := by
  induction items generalizing position with
  | nil => exact h.done []
  | cons item items ih =>
    apply h.bind (h.under _ (hItems item List.mem_cons_self))
    intro result
    have hRest := ih fun other hOther => hItems other (List.mem_cons_of_mem _ hOther)
    apply h.bind (hRest (position + 1))
    intro values
    cases result <;> exact h.done _

theorem entries {fields : List (String × Field)} (hFields : ∀ field ∈ fields, P field.2.2) :
    P (entries config fields) := by
  induction fields with
  | nil => exact h.done []
  | cons field fields ih =>
    obtain ⟨key, value, plan⟩ := field
    apply h.bind (h.under _ (h.resolveKey key))
    intro name
    apply h.bind (h.under _ (hFields _ List.mem_cons_self))
    intro result
    apply h.bind (ih fun other hOther => hFields other (List.mem_cons_of_mem _ hOther))
    intro others
    cases result <;> exact h.done _

theorem mapping {fields : List (String × Field)} (hFields : ∀ field ∈ fields, P field.2.2) :
    P (mapping config fields) :=
  h.bind (h.entries hFields) fun _ => h.done _

theorem directive {fields : List (String × Field)} (hFields : ∀ field ∈ fields, P field.2.2) :
    P (directive config fields (Directive.classify fields)) := by
  rw [Directive.classify]
  split
  · apply h.bind (h.under _ (h.decision _))
    intro result
    split
    · exact h.branch hFields thenKey
    · exact h.branch hFields elseKey
  · apply h.bind (h.under _ (h.decision _))
    rintro (_ | value)
    · exact h.done none
    · apply h.bind (h.under _ (h.spliceText _ _ _))
      intro label
      by_cases hLabel : label = switchKey
      · rw [if_pos hLabel]
        exact h.done none
      · rw [if_neg hLabel]
        exact h.branch hFields label
  · exact h.under _ (h.decision _)
  · exact h.mapping hFields

theorem walk (document : Json) : P (walk config document) := by
  apply walk_induction _ document
  constructor
  case text => exact h.interpolate
  case array => exact fun hItems => h.bind (h.elements hItems 0) fun _ => h.done _
  case object => exact fun hFields => h.orKeep (h.directive hFields) (h.mapping hFields)
  case scalar => exact fun value => h.done (some value)

end ClosedUnderTemplate

end ParamTree
