import Mathlib.Control.Monad.Basic
import ParamTree.Parameterizer
import ParamTree.Proofs.Exchange
import ParamTree.Proofs.WalkedFields

/-!
# Lenient documents

Every place at which a lenient document can go wrong has something to fall back on: a marker keeps
its text, and a directive is resolved as the plain object that it is. So the plan of a lenient
document has no error at the end of any of its branches, and a run of it comes to a result unless a
crash cuts it short.
-/

namespace ParamTree

namespace Interpolation

variable {config : Config} (hLenient : config.isLenient = true)
include hLenient

theorem spliceSegments_neverFails (fragment : String) (segments : List Segment) :
    (spliceSegments config fragment segments).NeverFails := by
  induction segments with
  | nil => trivial
  | cons segment rest ih =>
    cases segment with
    | literal text => exact ih.bind fun _ => trivial
    | marker raw body =>
      have hMarker : (Template.orKeep config.isLenient (splice config body fragment)
          (.done raw)).NeverFails := by
        rw [Template.orKeep, if_pos hLenient]
        exact Plan.NeverFails.recover fun _ => trivial
      exact hMarker.bind fun _ => ih.bind fun _ => trivial

theorem interpolate_neverFails (text : String) : (interpolate config text).NeverFails := by
  rw [interpolate]
  split
  · rw [ofSegments.eq_def]
    split
    · rw [Template.orKeep, if_pos hLenient]
      exact Plan.NeverFails.recover fun _ => trivial
    · exact (spliceSegments_neverFails hLenient _ _).bind fun _ => trivial
  · trivial

end Interpolation

namespace Substitution

theorem elements_neverFails {items : List (Template (Option Json))}
    (h : ∀ item ∈ items, item.NeverFails) (position : Nat) :
    (elements position items).NeverFails := by
  induction items generalizing position with
  | nil => trivial
  | cons item items ih =>
    have hItem := (h item List.mem_cons_self).mapError (TemplateError.under (.index position))
    have hItems := ih (fun other hOther => h other (List.mem_cons_of_mem _ hOther)) (position + 1)
    apply hItem.bind
    intro result
    apply hItems.bind
    intro values
    cases result <;> trivial

theorem branch_neverFails {fields : List (String × Field)}
    (h : ∀ field ∈ fields, field.2.2.NeverFails) (label : String) :
    (branch label (Entries.get? fields label)).NeverFails := by
  induction fields with
  | nil => trivial
  | cons field fields ih =>
    rw [Entries.get?]
    split
    · exact (h field List.mem_cons_self).mapError _
    · exact ih fun other hOther => h other (List.mem_cons_of_mem _ hOther)

section Lenient

variable {config : Config} (hLenient : config.isLenient = true)
include hLenient

theorem resolveKey_neverFails (key : String) : (resolveKey config key).NeverFails := by
  apply (Interpolation.interpolate_neverFails hLenient key).bind
  intro result
  split <;> trivial

theorem entries_neverFails {fields : List (String × Field)}
    (h : ∀ field ∈ fields, field.2.2.NeverFails) : (entries config fields).NeverFails := by
  induction fields with
  | nil => trivial
  | cons field fields ih =>
    obtain ⟨key, value, plan⟩ := field
    have hKey := (resolveKey_neverFails hLenient key).mapError (TemplateError.under (.key key))
    have hPlan := (h _ List.mem_cons_self).mapError (TemplateError.under (.key key))
    have hFields := ih fun other hOther => h other (List.mem_cons_of_mem _ hOther)
    apply hKey.bind
    intro name
    apply hPlan.bind
    intro result
    apply hFields.bind
    intro others
    cases result <;> trivial

theorem mapping_neverFails {fields : List (String × Field)}
    (h : ∀ field ∈ fields, field.2.2.NeverFails) : (mapping config fields).NeverFails :=
  (entries_neverFails hLenient h).bind fun _ => trivial

theorem object_neverFails {fields : List (String × Field)}
    (h : ∀ field ∈ fields, field.2.2.NeverFails) : (object config fields).NeverFails := by
  rw [object, Template.orKeep, if_pos hLenient]
  exact Plan.NeverFails.recover fun _ => mapping_neverFails hLenient h

end Lenient

theorem closedUnderWalk_neverFails {config : Config} (hLenient : config.isLenient = true) :
    ClosedUnderWalk config fun plan => plan.NeverFails := by
  constructor
  case text => exact Interpolation.interpolate_neverFails hLenient
  case array => exact fun h => (elements_neverFails h 0).bind fun _ => trivial
  case object => exact object_neverFails hLenient
  case scalar => exact fun _ => trivial

theorem walk_neverFails {config : Config} (hLenient : config.isLenient = true) (document : Json) :
    (walk config document).NeverFails :=
  walk_induction (closedUnderWalk_neverFails hLenient) document

theorem walkFields_neverFail {config : Config} (hLenient : config.isLenient = true)
    (fields : List (String × Json)) : ∀ field ∈ walkFields config fields, field.2.2.NeverFails :=
  walkFields_induction (closedUnderWalk_neverFails hLenient) fields

end Substitution

namespace Parameterizer

variable {σ : Type}

def exchanges (engine : Parameterizer σ) (document : Json) (params : ParameterSet σ)
    (world : World σ) : List (Exchange template) :=
  (Substitution.walk engine.config document).exchanges
    (params.answerTemplate engine.evaluator engine.config.timeout) world

/-- A lenient document has a result, whatever evaluator and callables answer, unless one of them
crashes in the middle. -/
theorem ok_of_lenient (engine : Parameterizer σ) (hLenient : engine.config.policy = .lenient)
    (document : Json) (params : ParameterSet σ) (world : World σ) :
    (∃ result after,
      engine.substitute document params world = (some (.ok result), after) ∧
      engine.parameterize document params world = (some (.ok (result.getD .null)), after)) ∨
    (∃ exchange ∈ engine.exchanges document params world, exchange.answer = none) ∧
      (engine.substitute document params world).1 = none ∧
      (engine.parameterize document params world).1 = none := by
  have hPlan : (Substitution.walk engine.config document).NeverFails :=
    Substitution.walk_neverFails (by rw [Config.isLenient, hLenient]; rfl) document
  obtain ⟨result, after, hRun⟩ | ⟨hNone, hCrash⟩ :=
    hPlan.run (params.answerTemplate engine.evaluator engine.config.timeout) world
  · have hSubstitute : engine.substitute document params world = (some (.ok result), after) := hRun
    exact .inl ⟨result, after, hSubstitute, by rw [parameterize, hSubstitute]; rfl⟩
  · have hSubstitute : (engine.substitute document params world).1 = none := hNone
    refine .inr ⟨hCrash, hSubstitute, ?_⟩
    simp only [parameterize, hSubstitute, Option.map_none]

/-- The only name that is defined is spliced in, and the rest is kept as it is written. -/
theorem ok_of_lenient_one_defined_name :
    let engine : Parameterizer Unit := ⟨Config.standard.lenient, fun text _ _ world =>
      if text = "b" then (some (.ok (some (.ofNat 1))), world)
      else (some (.error (.undefinedName text)), world)⟩
    let document : Json := .object [(ifKey, .string "a"),
      ("k$\x7bb\x7d", .array [.string "$\x7bc\x7d", .object [(evalKey, .string "d")]])]
    let kept : Json := .object [(ifKey, .string "a"),
      ("k1", .array [.string "$\x7bc\x7d", .object [(evalKey, .string "d")]])]
    engine.config.policy = .lenient ∧
    (engine.substitute document .empty ⟨(), 0⟩).1 = some (.ok (some kept)) ∧
    (engine.parameterize document .empty ⟨(), 0⟩).1 = some (.ok kept) := by
  intro engine document kept
  have hRun : (engine.substitute document .empty ⟨(), 0⟩).1 = some (.ok (some kept)) := by
    decide +kernel
  obtain ⟨result, after, hSubstitute, hParameterize⟩ | ⟨-, hCrash, -⟩ :=
    ok_of_lenient engine rfl document .empty ⟨(), 0⟩
  · rw [hSubstitute] at hRun
    cases hRun
    exact ⟨rfl, congrArg Prod.fst hSubstitute, congrArg Prod.fst hParameterize⟩
  · cases hCrash.symm.trans hRun

end Parameterizer

end ParamTree
