import Mathlib.Control.Monad.Basic
import ParamTree.Config.Basic
import ParamTree.Proofs.Exchange
import ParamTree.Template.Request

/-!
# Courses of calls

A course says which expressions are put to the evaluator one after another, where what comes next
may depend on the replies so far, and how a run ends after them. Courses are built from single calls
by putting one behind another. Main statements: of a deterministic course, the replies determine
everything else, and a plan follows the course that its parts follow.
-/

namespace ParamTree

structure Call where
  expression : String
  /-- None where the evaluation crashed. -/
  reply : Option (Except EvalError (Option Json))
deriving DecidableEq

inductive Ending where
  | completed
  | failed
  | crashed
deriving DecidableEq

def Ending.of {ε α : Type} : Option (Except ε α) → Ending
  | some (.ok _) => completed
  | some (.error _) => failed
  | none => crashed

def Exchange.call? : Exchange template → Option Call
  | ⟨.evaluate expression, answer⟩ => some ⟨expression, answer⟩
  | _ => none

/-- Which calls may be made, and how they may end. -/
abbrev Course : Type := List Call → Ending → Prop

namespace Course

def silent : Course := fun calls ending => calls = [] ∧ ending = .completed

/-- Nothing is called any more, because something has failed. -/
def stuck : Course := fun calls ending => calls = [] ∧ ending = .failed

def onReply (next : Option Json → Course) (unable : Course) :
    Except EvalError (Option Json) → Course
  | .ok result => next result
  | .error _ => unable

def call (expression : String) (next : Option Json → Course) (unable : Course) : Course :=
  fun calls ending =>
    (calls = [⟨expression, none⟩] ∧ ending = .crashed) ∨
      ∃ reply rest, calls = ⟨expression, some reply⟩ :: rest ∧
        onReply next unable reply rest ending

/-- One course after another. The second one is not begun unless the first is completed. -/
def andThen (first second : Course) : Course := fun calls ending =>
  (first calls ending ∧ ending ≠ .completed) ∨
    ∃ before after, calls = before ++ after ∧ first before .completed ∧ second after ending

/-- What follows a failure: nothing in a lenient document. -/
def failure (config : Config) : Course :=
  if config.isLenient then silent else stuck

/-- The same replies, whatever they are followed by, mean the same calls and the same ending. -/
def Deterministic (course : Course) : Prop :=
  ∀ ⦃calls calls' rest rest' ending ending'⦄, course calls ending → course calls' ending' →
    (calls ++ rest).map Call.reply = (calls' ++ rest').map Call.reply →
      calls = calls' ∧ ending = ending'

/-- The expressions are among the given ones, in their order, none of them more often. -/
def Within (course : Course) (expressions : List String) : Prop :=
  ∀ ⦃calls ending⦄, course calls ending → (calls.map Call.expression).Sublist expressions

/-- A course that is completed has called all of the expressions. -/
def Exhausts (course : Course) (expressions : List String) : Prop :=
  ∀ ⦃calls⦄, course calls .completed → calls.map Call.expression = expressions

theorem Deterministic.silent : Deterministic silent := by
  rintro _ _ _ _ _ _ ⟨rfl, rfl⟩ ⟨rfl, rfl⟩ _
  exact ⟨rfl, rfl⟩

theorem Deterministic.stuck : Deterministic stuck := by
  rintro _ _ _ _ _ _ ⟨rfl, rfl⟩ ⟨rfl, rfl⟩ _
  exact ⟨rfl, rfl⟩

theorem Deterministic.failure (config : Config) : Deterministic (failure config) := by
  rw [Course.failure]
  split
  · exact .silent
  · exact .stuck

theorem Deterministic.call (expression : String) {next : Option Json → Course}
    {unable : Course} (h : ∀ result, Deterministic (next result)) (hUnable : Deterministic unable) :
    Deterministic (call expression next unable) := by
  have hReply : ∀ reply, Deterministic (onReply next unable reply) := by
    intro reply
    cases reply with
    | ok result => exact h result
    | error => exact hUnable
  rintro calls calls' rest rest' ending ending' (⟨rfl, rfl⟩ | ⟨reply, after, rfl, hAfter⟩)
    (⟨rfl, rfl⟩ | ⟨reply', after', rfl, hAfter'⟩) hReplies
  · exact ⟨rfl, rfl⟩
  · cases List.head_eq_of_cons_eq hReplies
  · cases List.head_eq_of_cons_eq hReplies
  · have hSame : reply = reply' := Option.some.inj (List.head_eq_of_cons_eq hReplies)
    subst hSame
    obtain ⟨rfl, rfl⟩ := hReply reply hAfter hAfter' (List.tail_eq_of_cons_eq hReplies)
    exact ⟨rfl, rfl⟩

theorem Deterministic.andThen {first second : Course} (h₁ : Deterministic first)
    (h₂ : Deterministic second) : Deterministic (first.andThen second) := by
  rintro calls calls' rest rest' ending ending' (⟨hStop, hNot⟩ | ⟨before, after, rfl, hBefore, hAfter⟩)
    (⟨hStop', hNot'⟩ | ⟨before', after', rfl, hBefore', hAfter'⟩) hReplies
  · exact h₁ hStop hStop' hReplies
  · rw [List.append_assoc] at hReplies
    exact (hNot (h₁ hStop hBefore' hReplies).2).elim
  · rw [List.append_assoc] at hReplies
    exact (hNot' (h₁ hBefore hStop' hReplies).2.symm).elim
  · rw [List.append_assoc, List.append_assoc] at hReplies
    obtain ⟨rfl, -⟩ := h₁ hBefore hBefore' hReplies
    rw [@List.map_append _ _ _ before, @List.map_append _ _ _ before] at hReplies
    obtain ⟨rfl, rfl⟩ := h₂ hAfter hAfter' (List.append_cancel_left hReplies)
    exact ⟨rfl, rfl⟩

theorem Within.silent (expressions : List String) : Within silent expressions := by
  rintro _ _ ⟨rfl, -⟩
  exact List.nil_sublist _

theorem Within.stuck (expressions : List String) : Within stuck expressions := by
  rintro _ _ ⟨rfl, -⟩
  exact List.nil_sublist _

theorem Within.failure (config : Config) (expressions : List String) :
    Within (failure config) expressions := by
  rw [Course.failure]
  split
  · exact .silent _
  · exact .stuck _

theorem Within.call {expression : String} {next : Option Json → Course} {unable : Course}
    {expressions : List String} (h : ∀ result, Within (next result) expressions)
    (hUnable : Within unable expressions) :
    Within (call expression next unable) (expression :: expressions) := by
  rintro calls ending (⟨rfl, -⟩ | ⟨reply, rest, rfl, hRest⟩)
  · exact List.Sublist.cons_cons _ (List.nil_sublist _)
  · cases reply with
    | ok result => exact List.Sublist.cons_cons _ (h result hRest)
    | error => exact List.Sublist.cons_cons _ (hUnable hRest)

theorem Within.andThen {first second : Course} {before after : List String}
    (h₁ : Within first before) (h₂ : Within second after) :
    Within (first.andThen second) (before ++ after) := by
  rintro calls ending (⟨hStop, -⟩ | ⟨xs, ys, rfl, hxs, hys⟩)
  · exact (h₁ hStop).trans (List.sublist_append_left _ _)
  · rw [List.map_append]
    exact (h₁ hxs).append (h₂ hys)

theorem Within.mono {course : Course} {expressions others : List String}
    (h : Within course expressions) (hSub : expressions.Sublist others) : Within course others :=
  fun _ _ hCourse => (h hCourse).trans hSub

theorem Exhausts.silent : Exhausts silent [] := by
  rintro _ ⟨rfl, -⟩
  rfl

theorem Exhausts.failure (config : Config) : Exhausts (failure config) [] := by
  rw [Course.failure]
  split
  · exact .silent
  · rintro _ ⟨-, hEnding⟩
    cases hEnding

theorem Exhausts.call {expression : String} {next : Option Json → Course} {unable : Course}
    {expressions : List String} (h : ∀ result, Exhausts (next result) expressions)
    (hUnable : Exhausts unable expressions) :
    Exhausts (call expression next unable) (expression :: expressions) := by
  rintro calls (⟨-, hEnding⟩ | ⟨reply, rest, rfl, hRest⟩)
  · cases hEnding
  · cases reply with
    | ok result => exact congrArg (expression :: ·) (h result hRest)
    | error => exact congrArg (expression :: ·) (hUnable hRest)

theorem Exhausts.andThen {first second : Course} {before after : List String}
    (h₁ : Exhausts first before) (h₂ : Exhausts second after) :
    Exhausts (first.andThen second) (before ++ after) := by
  rintro calls (⟨-, hNot⟩ | ⟨xs, ys, rfl, hxs, hys⟩)
  · exact (hNot rfl).elim
  · rw [List.map_append, h₁ hxs, h₂ hys]

end Course

/-- All runs of the plan take the course, whoever answers. -/
def Template.Follows {α : Type} (plan : Template α) (course : Course) : Prop :=
  ∀ (σ : Type) (answer : (question : template.Question) → Act σ (template.Answer question))
    (world : World σ), course ((plan.exchanges answer world).filterMap Exchange.call?)
      (Ending.of (plan.run answer world).1)

namespace Template.Follows

open Plan

variable {α β : Type}

theorem done (value : α) : Follows (.done value) .silent :=
  fun _ _ _ => ⟨rfl, rfl⟩

theorem fail (error : TemplateError) : Follows (.fail error : Template α) .stuck :=
  fun _ _ _ => ⟨rfl, rfl⟩

theorem evaluate {expression : String}
    {next : (TemplateQuestion.evaluate expression).Answer → Template α}
    {course : Option Json → Course} {unable : Course}
    (h : ∀ result, Follows (next (.ok result)) (course result))
    (hUnable : ∀ cause, Follows (next (.error cause)) unable) :
    Follows (.ask (TemplateQuestion.evaluate expression) next)
      (.call expression course unable) := by
  intro σ answer world
  rcases hAnswer : answer (TemplateQuestion.evaluate expression) world with
    ⟨_ | cause | result, after⟩
  · rw [exchanges_ask_crashed answer hAnswer, run_ask_crashed answer hAnswer]
    exact .inl ⟨rfl, rfl⟩
  · rw [exchanges_ask_answered answer hAnswer, run_ask_answered answer hAnswer]
    exact .inr ⟨.error cause, _, rfl, hUnable cause σ answer after⟩
  · rw [exchanges_ask_answered answer hAnswer, run_ask_answered answer hAnswer]
    exact .inr ⟨.ok result, _, rfl, h result σ answer after⟩

/-- An evaluation whose result is used, in a place that may keep something else. -/
theorem orKeep_evaluate {expression : String} {lenient : Bool}
    {first : (TemplateQuestion.evaluate expression).Answer → Template (Option Json)}
    {f : Option Json → Template α} {kept : Template α}
    {course : Option Json → Course} {unable : Course}
    (hDone : ∀ result, first (.ok result) = .done result)
    (hFail : ∀ cause, ∃ error, first (.error cause) = .fail error)
    (h : ∀ result, Follows (Template.orKeep lenient (f result) kept) (course result))
    (hUnable : ∀ error, Follows (Template.orKeep lenient (.fail error) kept) unable) :
    Follows (Template.orKeep lenient (.ask (TemplateQuestion.evaluate expression) first >>= f) kept)
      (.call expression course unable) := by
  have hAsk : Template.orKeep lenient (.ask (TemplateQuestion.evaluate expression) first >>= f)
      kept = .ask (TemplateQuestion.evaluate expression) fun reply =>
        Template.orKeep lenient (first reply >>= f) kept := by
    cases lenient <;> rfl
  rw [hAsk]
  refine evaluate (fun result => ?_) fun cause => ?_
  · rw [hDone, done_bind]
    exact h result
  · obtain ⟨error, hError⟩ := hFail cause
    rw [hError, fail_bind]
    exact hUnable error

theorem bind {plan : Template α} {f : α → Template β} {first second : Course}
    (h : Follows plan first) (hf : ∀ value, Follows (f value) second) :
    Follows (plan >>= f) (first.andThen second) := by
  intro σ answer world
  have hPlan := h σ answer world
  rw [exchanges_bind, run_bind]
  rcases hRun : plan.run answer world with ⟨_ | _ | value, after⟩
  · rw [hRun] at hPlan
    rw [List.append_nil]
    exact .inl ⟨hPlan, nofun⟩
  · rw [hRun] at hPlan
    rw [List.append_nil]
    exact .inl ⟨hPlan, nofun⟩
  · rw [hRun] at hPlan
    rw [List.filterMap_append]
    exact .inr ⟨_, _, rfl, hPlan, hf value σ answer after⟩

theorem bind_done {plan : Template α} {f : α → Template β} {course : Course}
    (h : Follows plan course) (hf : ∀ value, ∃ result, f value = .done result) :
    Follows (plan >>= f) course := by
  intro σ answer world
  have hPlan := h σ answer world
  rw [exchanges_bind, run_bind]
  rcases hRun : plan.run answer world with ⟨_ | _ | value, after⟩
  · rw [hRun] at hPlan
    rwa [List.append_nil]
  · rw [hRun] at hPlan
    rwa [List.append_nil]
  · obtain ⟨result, hResult⟩ := hf value
    rw [hRun] at hPlan
    simp only [hResult, exchanges_done, List.append_nil]
    exact hPlan

theorem under {plan : Template α} {course : Course} (h : Follows plan course)
    (segment : PathSegment) : Follows (Template.under segment plan) course := by
  intro σ answer world
  have hPlan := h σ answer world
  rw [Template.under, exchanges_mapError, run_mapError]
  rcases hRun : plan.run answer world with ⟨_ | _ | value, after⟩ <;> rw [hRun] at hPlan <;>
    exact hPlan

end Template.Follows

end ParamTree
