import Mathlib
import ParamTree.Proofs.KnownNames

/-!
# Dependence on the names looked up

What a document becomes depends only on the bindings of the names that its run looks up, in its
expressions and outside of them. Bindings of other names, and the order of the bindings, are of no
matter. Main statement: `substitute_depends_on_lookups`.
-/

namespace ParamTree

open Plan

variable {σ : Type}

/-- What a question of a document asks of the parameters and of the clock. An expression asks what
its own evaluation asks. -/
def ParameterSet.inquiries (params : ParameterSet σ) (limit : Duration) :
    TemplateQuestion → World σ → List (Exchange scope)
  | .evaluate text, world =>
    match Expr.ofText text with
    | .error _ => []
    | .ok expr => expr.evaluate.exchanges (params.answer limit world.now) world
  | .lookup name, _ => [⟨.lookup name, some (params.entry? name)⟩]
  | .invoke name args, world => [⟨.invoke name args, (params.call name args world).1⟩]

/-- The names that are looked up, whether they are found or not. -/
def Exchange.lookups (exchanges : List (Exchange scope)) : List String :=
  exchanges.filterMap fun exchange => exchange.question.lookedUp?

/-- The clock says that the time has run out. -/
def Exchange.Expired (exchange : Exchange scope) : Prop :=
  ∃ limit : Duration, exchange = ⟨ScopeQuestion.deadline, some (some limit)⟩

namespace Parameterizer

/-- What the run of a document asks of the parameters and of the clock, in order. -/
def inquiries (config : Config) (document : Json) (params : ParameterSet σ) (world : World σ) :
    List (Exchange scope) :=
  (Substitution.walk config document).trace
    (params.answerTemplate Evaluator.cooperative config.timeout) (params.inquiries config.timeout)
    world

/-- The names that the run of a document looks up. -/
def lookups (config : Config) (document : Json) (params : ParameterSet σ) (world : World σ) :
    List String :=
  Exchange.lookups (inquiries config document params world)

def InTime (config : Config) (document : Json) (params : ParameterSet σ) (world : World σ) : Prop :=
  ∀ exchange ∈ inquiries config document params world, ¬exchange.Expired

end Parameterizer

/-- What the callable returns depends on its arguments only. It may take its time as it likes. -/
def Callable.Stateless (callable : Callable σ) : Prop :=
  ∃ outcome : List Json → CallOutcome,
    ∀ args state, (callable.body args state).1.outcome = outcome args

def ParameterSet.Stateless (params : ParameterSet σ) : Prop :=
  ∀ name callable, params.get? name = some (.callable callable) → callable.Stateless

/-! ### Names that are called -/

theorem ParameterSet.exists_inquiry (params : ParameterSet σ) (limit : Duration)
    (question : TemplateQuestion) (world : World σ) {name : String}
    (hLooked : question.lookedUp? = some name) :
    ∃ exchange ∈ params.inquiries limit question world,
      exchange.question.lookedUp? = some name := by
  cases question with
  | lookup other => exact ⟨_, List.mem_singleton_self _, hLooked⟩
  | evaluate _ | invoke _ _ => cases hLooked

theorem ParameterSet.looked_up_of_called {params : ParameterSet σ} {limit : Duration}
    {question : TemplateQuestion} {world : World σ} {exchange : Exchange scope}
    (hMem : exchange ∈ params.inquiries limit question world) {name : String}
    (hCalled : exchange.question.called? = some name) :
    question.called? = some name ∨
      ∃ other ∈ params.inquiries limit question world, other.question.lookedUp? = some name := by
  cases question with
  | lookup other =>
    obtain rfl := List.mem_singleton.mp hMem
    cases hCalled
  | invoke other args =>
    obtain rfl := List.mem_singleton.mp hMem
    exact .inl hCalled
  | evaluate text =>
    rw [inquiries] at hMem ⊢
    split at hMem
    · cases hMem
    · rename_i expr hExpr
      exact .inr ((Expr.evaluate_callsKnown [] expr).looked_up_exchange hMem hCalled)

theorem Parameterizer.looked_up_of_called {config : Config} {document : Json}
    {params : ParameterSet σ} {world : World σ} {exchange : Exchange scope}
    (hMem : exchange ∈ inquiries config document params world) {name : String}
    (hCalled : exchange.question.called? = some name) :
    name ∈ lookups config document params world := by
  have hLookup := (Substitution.walk_callsKnown config document).looked_up hMem
    (fun exchange => exchange.question.lookedUp?) (fun exchange => exchange.question.called?)
    hCalled
    (fun question world name => params.exists_inquiry config.timeout question world)
    (fun question world exchange hExchange name => params.looked_up_of_called hExchange)
  obtain ⟨other, hOther, hName⟩ := hLookup.resolve_left List.not_mem_nil
  exact List.mem_filterMap.mpr ⟨other, hOther, hName⟩

/-! ### Runs in step -/

section Step

variable {params others : ParameterSet σ}

/-- The parameters agree on the names that the exchange is about. -/
def Exchange.AgreeOn (params others : ParameterSet σ) (exchange : Exchange scope) : Prop :=
  ∀ name, exchange.question.lookedUp? = some name ∨ exchange.question.called? = some name →
    others.get? name = params.get? name

theorem ParameterSet.answer_eq {question : ScopeQuestion}
    (h : ∀ name, question.lookedUp? = some name ∨ question.called? = some name →
      others.get? name = params.get? name) (limit : Duration) (start : Nat) :
    others.answer limit start question = params.answer limit start question := by
  funext world
  cases question with
  | lookup name =>
    exact congrArg (fun binding : Option (Binding σ) => (some (binding.map Binding.entry), world))
      (h name (.inl rfl))
  | invoke name args =>
    change others.call name args world = params.call name args world
    rw [call, call, h name (.inr rfl)]
  | deadline => rfl

theorem Callable.call_outcome {callable : Callable σ} (h : callable.Stateless) (args : List Json)
    (world elsewhere : World σ) :
    (callable.call args elsewhere).1 = (callable.call args world).1 := by
  obtain ⟨outcome, hOutcome⟩ := h
  rw [call, call]
  split
  · simp only [hOutcome]
    cases outcome args <;> rfl
  · rfl

theorem ParameterSet.call_outcome (h : params.Stateless) (name : String) (args : List Json)
    (world elsewhere : World σ) :
    (params.call name args elsewhere).1 = (params.call name args world).1 := by
  rw [call, call]
  split
  · rename_i callable hName
    exact Callable.call_outcome (h name callable hName) args world elsewhere
  · rfl

theorem ParameterSet.answer_deadline {limit : Duration} {start : Nat} {world : World σ}
    (h : ¬Exchange.Expired ⟨.deadline, (params.answer limit start .deadline world).1⟩) :
    params.answer limit start .deadline world = (some none, world) := by
  have hInTime : ¬limit.exceeded start world.now = true := fun hExceeded =>
    h ⟨limit, congrArg (fun answer => (⟨.deadline, some answer⟩ : Exchange scope))
      (if_pos hExceeded)⟩
  exact congrArg (fun answer => (some answer, world)) (if_neg hInTime)

/-- While there is time, the answers are the same in every world. -/
theorem ParameterSet.answer_outcome (h : params.Stateless) {limit : Duration} {start start' : Nat}
    {question : ScopeQuestion} {world elsewhere : World σ}
    (hTime : ¬Exchange.Expired ⟨question, (params.answer limit start question world).1⟩)
    (hTime' : ¬Exchange.Expired ⟨question, (params.answer limit start' question elsewhere).1⟩) :
    (params.answer limit start' question elsewhere).1 =
      (params.answer limit start question world).1 := by
  cases question with
  | lookup name => rfl
  | invoke name args => exact params.call_outcome h name args world elsewhere
  | deadline => rw [answer_deadline hTime, answer_deadline hTime']

/-- The questions of expressions are answered alike: the answers are the same, and the worlds stay
alike, where the exchanges with both parameter sets are good. -/
def ParameterSet.InStep (limit : Duration) (Alike : World σ → World σ → Prop)
    (Good Good' : Exchange scope → Prop) (params others : ParameterSet σ) : Prop :=
  ∀ start start' question world world', Alike start start' → Alike world world' →
    Good ⟨question, (params.answer limit start.now question world).1⟩ →
    Good' ⟨question, (others.answer limit start'.now question world').1⟩ →
    (others.answer limit start'.now question world').1 =
        (params.answer limit start.now question world).1 ∧
      Alike (params.answer limit start.now question world).2
        (others.answer limit start'.now question world').2

variable {limit : Duration} {Alike : World σ → World σ → Prop}
  {Good Good' : Exchange scope → Prop} (hStep : params.InStep limit Alike Good Good' others)
include hStep

theorem Evaluator.cooperative_inStep {text : String} {world world' : World σ}
    (hAlike : Alike world world')
    (hGood : ∀ exchange ∈ params.inquiries limit (.evaluate text) world, Good exchange)
    (hGood' : ∀ exchange ∈ others.inquiries limit (.evaluate text) world', Good' exchange) :
    (cooperative text others limit world').1 = (cooperative text params limit world).1 ∧
      Alike (cooperative text params limit world).2 (cooperative text others limit world').2 := by
  rw [ParameterSet.inquiries] at hGood hGood'
  rw [cooperative, cooperative]
  cases hExpr : Expr.ofText text with
  | error error => exact ⟨rfl, hAlike⟩
  | ok expr =>
    rw [hExpr] at hGood hGood'
    simp only [exchanges_eq_trace] at hGood hGood'
    refine run_lockstep ?_ expr.evaluate hAlike hGood hGood'
    intro question middle middle' hMiddle hExchange hExchange'
    exact hStep world world' question middle middle' hAlike hMiddle
      (hExchange _ (List.mem_singleton_self _)) (hExchange' _ (List.mem_singleton_self _))

theorem ParameterSet.answerTemplate_inStep {question : TemplateQuestion} {world world' : World σ}
    (hAlike : Alike world world')
    (hGood : ∀ exchange ∈ params.inquiries limit question world, Good exchange)
    (hGood' : ∀ exchange ∈ others.inquiries limit question world', Good' exchange) :
    (others.answerTemplate Evaluator.cooperative limit question world').1 =
        (params.answerTemplate Evaluator.cooperative limit question world).1 ∧
      Alike (params.answerTemplate Evaluator.cooperative limit question world).2
        (others.answerTemplate Evaluator.cooperative limit question world').2 := by
  cases question with
  | evaluate text => exact Evaluator.cooperative_inStep hStep hAlike hGood hGood'
  | lookup name =>
    exact hStep world world' (.lookup name) world world' hAlike hAlike
      (hGood _ (List.mem_singleton_self _)) (hGood' _ (List.mem_singleton_self _))
  | invoke name args =>
    exact hStep world world' (.invoke name args) world world' hAlike hAlike
      (hGood _ (List.mem_singleton_self _)) (hGood' _ (List.mem_singleton_self _))

end Step

namespace Parameterizer

variable {config : Config} {document : Json} {params others : ParameterSet σ}

theorem substitute_inStep {Alike : World σ → World σ → Prop} {Good Good' : Exchange scope → Prop}
    (hStep : params.InStep config.timeout Alike Good Good' others) {world world' : World σ}
    (hAlike : Alike world world')
    (hGood : ∀ exchange ∈ inquiries config document params world, Good exchange)
    (hGood' : ∀ exchange ∈ inquiries config document others world', Good' exchange) :
    ((cooperative config).substitute document others world').1 =
        ((cooperative config).substitute document params world).1 ∧
      Alike ((cooperative config).substitute document params world).2
        ((cooperative config).substitute document others world').2 := by
  refine run_lockstep ?_ (Substitution.walk config document) hAlike hGood hGood'
  intro question middle middle' hMiddle hExchange hExchange'
  exact ParameterSet.answerTemplate_inStep hStep hMiddle hExchange hExchange'

theorem agreeOn_of_lookups {world : World σ}
    (hAgree : ∀ name ∈ lookups config document params world, others.get? name = params.get? name) :
    ∀ exchange ∈ inquiries config document params world, exchange.AgreeOn params others := by
  rintro exchange hMem name (hLooked | hCalled)
  · exact hAgree name (List.mem_filterMap.mpr ⟨exchange, hMem, hLooked⟩)
  · exact hAgree name (looked_up_of_called hMem hCalled)

/-- From one world, the whole run is the same. -/
theorem substitute_congr {world : World σ}
    (hAgree : ∀ name ∈ lookups config document params world, others.get? name = params.get? name) :
    (cooperative config).substitute document others world =
      (cooperative config).substitute document params world := by
  have hStep : params.InStep config.timeout Eq (Exchange.AgreeOn params others) (fun _ => True)
      others := by
    rintro start _ question middle _ rfl rfl hQuestion -
    rw [ParameterSet.answer_eq hQuestion]
    exact ⟨rfl, rfl⟩
  obtain ⟨hResult, hWorld⟩ := substitute_inStep hStep rfl (agreeOn_of_lookups hAgree)
    fun _ _ => trivial
  exact Prod.ext hResult hWorld.symm

/-- From another world, the result is the same if callables have no state and there is time. -/
theorem substitute_result_congr {world elsewhere : World σ}
    (hAgree : ∀ name ∈ lookups config document params world, others.get? name = params.get? name)
    (hStateless : params.Stateless) (hTime : InTime config document params world)
    (hTime' : InTime config document others elsewhere) :
    ((cooperative config).substitute document others elsewhere).1 =
      ((cooperative config).substitute document params world).1 := by
  have hStep : params.InStep config.timeout (fun _ _ => True)
      (fun exchange => exchange.AgreeOn params others ∧ ¬exchange.Expired)
      (fun exchange => ¬exchange.Expired) others := by
    rintro start start' question middle middle' - - ⟨hQuestion, hInTime⟩ hInTime'
    rw [ParameterSet.answer_eq hQuestion] at hInTime' ⊢
    exact ⟨ParameterSet.answer_outcome hStateless hInTime hInTime', trivial⟩
  have hGood := fun exchange hMem =>
    And.intro (agreeOn_of_lookups hAgree exchange hMem) (hTime exchange hMem)
  exact (substitute_inStep hStep trivial hGood hTime').1

/-- What a document becomes depends on the names that its run looks up and on no others. Parameters
that agree on these names give the same run, with whatever the callables did, and where callables
have no state and no time limit runs out, the same result in any other world. So neither a binding
that is not looked up nor the order of the bindings matters. -/
theorem substitute_depends_on_lookups (config : Config) (document : Json) (params : ParameterSet σ)
    (world : World σ) :
    (∀ others : ParameterSet σ,
      (∀ name ∈ lookups config document params world, others.get? name = params.get? name) →
      (cooperative config).substitute document others world =
        (cooperative config).substitute document params world ∧
      ∀ elsewhere, params.Stateless → InTime config document params world →
        InTime config document others elsewhere →
        ((cooperative config).substitute document others elsewhere).1 =
          ((cooperative config).substitute document params world).1) ∧
    (∀ name binding, name ∉ lookups config document params world →
      (cooperative config).substitute document (params.insert name binding) world =
        (cooperative config).substitute document params world) ∧
    (∀ others : ParameterSet σ, (Entries.keys params.entries).Nodup →
      others.entries.Perm params.entries →
      (cooperative config).substitute document others world =
        (cooperative config).substitute document params world) := by
  refine ⟨?_, ?_, ?_⟩
  · intro others hAgree
    exact ⟨substitute_congr hAgree, fun elsewhere => substitute_result_congr hAgree⟩
  · intro name binding hUnused
    apply substitute_congr
    intro other hOther
    have hNe : name ≠ other := fun hName => hUnused (hName ▸ hOther)
    exact (Entries.get?_insert params.entries name other binding).trans (if_neg hNe)
  · intro others hKeys hPerm
    exact substitute_congr fun name _ => Entries.get?_eq_of_perm hKeys hPerm name

set_option maxRecDepth 3000 in
theorem substitute_depends_on_lookups_taken_branch :
    let twice : Callable Nat :=
      ⟨1, fun args count => (⟨.value (.array (args ++ args)), ⟨5⟩⟩, count + 1)⟩
    let document : Json := .object [(ifKey, .string "a"),
      (thenKey, .object [(evalKey, .string "f(b)")]), (elseKey, .object [(evalKey, .string "c")])]
    let params : ParameterSet Nat := ⟨[("a", .value (.bool true)), ("b", .value (.string "x")),
      ("c", .value .null), ("f", .callable twice)]⟩
    let others : ParameterSet Nat := ⟨[("f", .callable twice), ("b", .value (.string "x")),
      ("a", .value (.bool true))]⟩
    lookups .standard document params ⟨0, 0⟩ = ["a", "f", "b"] ∧
    (∀ name ∈ lookups .standard document params ⟨0, 0⟩, others.get? name = params.get? name) ∧
    params.Stateless ∧ InTime .standard document params ⟨0, 0⟩ ∧
    InTime .standard document others ⟨7, 100⟩ ∧
    ((cooperative .standard).substitute document others ⟨7, 100⟩).1 =
      ((cooperative .standard).substitute document params ⟨0, 0⟩).1 ∧
    (cooperative .standard).substitute document (params.insert "c" (.callable twice)) ⟨0, 0⟩ =
      (cooperative .standard).substitute document params ⟨0, 0⟩ ∧
    (cooperative .standard).substitute document ⟨params.entries.reverse⟩ ⟨0, 0⟩ =
      (cooperative .standard).substitute document params ⟨0, 0⟩ := by
  intro twice document params others
  let asked : List (Exchange scope) :=
    [⟨.deadline, some none⟩, ⟨.lookup "a", some (some (.value (.bool true)))⟩,
      ⟨.deadline, some none⟩, ⟨.lookup "f", some (some (.function 1))⟩, ⟨.deadline, some none⟩,
      ⟨.lookup "b", some (some (.value (.string "x")))⟩,
      ⟨.invoke "f" [.string "x"], some (.ok (.array [.string "x", .string "x"]))⟩,
      ⟨.deadline, some none⟩]
  have hAsked : inquiries .standard document params ⟨0, 0⟩ = asked := by cbv
  have hAsked' : inquiries .standard document others ⟨7, 100⟩ = asked := by cbv
  have hInTime : ∀ exchange ∈ asked, ¬exchange.Expired := by
    rintro exchange hMem ⟨limit, rfl⟩
    simp only [asked, List.mem_cons, List.not_mem_nil, or_false] at hMem
    rcases hMem with h | h | h | h | h | h | h | h <;> cases h
  have hLookups : lookups .standard document params ⟨0, 0⟩ = ["a", "f", "b"] := by
    rw [lookups, hAsked]
    rfl
  have hAgree : ∀ name ∈ lookups .standard document params ⟨0, 0⟩,
      others.get? name = params.get? name := by
    rw [hLookups]
    simp [ParameterSet.get?, Entries.get?, params, others]
  have hStateless : params.Stateless := by
    intro name callable hName
    have hTwice : name = "f" ∧ callable = twice := by
      grind [ParameterSet.get?, Entries.get?]
    obtain ⟨rfl, rfl⟩ := hTwice
    exact ⟨fun args => .value (.array (args ++ args)), fun _ _ => rfl⟩
  have hTime : InTime .standard document params ⟨0, 0⟩ := by rwa [InTime, hAsked]
  have hTime' : InTime .standard document others ⟨7, 100⟩ := by rwa [InTime, hAsked']
  obtain ⟨hSame, hUnused, hOrder⟩ :=
    substitute_depends_on_lookups .standard document params ⟨0, 0⟩
  have hResult := (hSame others hAgree).2 ⟨7, 100⟩ hStateless hTime hTime'
  have hInsert := hUnused "c" (.callable twice) (by rw [hLookups]; decide)
  have hReverse := hOrder ⟨params.entries.reverse⟩ (by decide) (List.reverse_perm _)
  exact ⟨hLookups, hAgree, hStateless, hTime, hTime', hResult, hInsert, hReverse⟩

end Parameterizer

end ParamTree
