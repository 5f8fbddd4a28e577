/-!
# Plans

A plan is a computation that puts questions to its surroundings and goes on with the answers. It
says what is asked, in which order, and what the answers lead to; who answers is left open. A plan
is run in a world, which is a state and a clock that counts nanoseconds. Main statements: plans form
a lawful monad, and `run_bind` says that a run of a sequence is the run of its first part followed
by that of the second.
-/

namespace ParamTree

/-- Questions of one kind, each with the type of its answers. -/
structure Interface where
  Question : Type
  Answer : Question → Type

inductive Plan (I : Interface) (ε α : Type) where
  | done (value : α)
  | fail (error : ε)
  | ask (question : I.Question) (next : I.Answer question → Plan I ε α)

/-- A span of time, shown to users in whole milliseconds. -/
structure Duration where
  nanoseconds : Nat
deriving DecidableEq

namespace Duration

def ofMilliseconds (count : Nat) : Duration :=
  ⟨count * 1000000⟩

def milliseconds (d : Duration) : Nat :=
  d.nanoseconds / 1000000

@[simp] theorem milliseconds_ofMilliseconds (count : Nat) :
    (ofMilliseconds count).milliseconds = count := by
  simp [ofMilliseconds, milliseconds]

end Duration

structure World (σ : Type) where
  state : σ
  now : Nat

/-- Something that happens in a world: it yields a value, or none where a crash cut it short. -/
abbrev Act (σ α : Type) : Type := World σ → Option α × World σ

namespace Plan

variable {I : Interface} {ε ε' α β γ σ : Type}

def bind : Plan I ε α → (α → Plan I ε β) → Plan I ε β
  | .done value, f => f value
  | .fail error, _ => .fail error
  | .ask question next, f => .ask question (fun answer => (next answer).bind f)

instance : Monad (Plan I ε) where
  pure := .done
  bind := bind

/-- Goes on with another plan where this one fails. -/
def recover : Plan I ε α → (ε → Plan I ε' α) → Plan I ε' α
  | .done value, _ => .done value
  | .fail error, f => f error
  | .ask question next, f => .ask question (fun answer => (next answer).recover f)

def mapError (f : ε → ε') (plan : Plan I ε α) : Plan I ε' α :=
  plan.recover (fun error => .fail (f error))

def run (answer : (question : I.Question) → Act σ (I.Answer question)) :
    Plan I ε α → Act σ (Except ε α)
  | .done value, world => (some (.ok value), world)
  | .fail error, world => (some (.error error), world)
  | .ask question next, world =>
    match answer question world with
    | (some reply, world) => (next reply).run answer world
    | (none, world) => (none, world)

@[simp] theorem pure_eq (value : α) : (pure value : Plan I ε α) = .done value := rfl

@[simp] theorem done_bind (value : α) (f : α → Plan I ε β) :
    (Plan.done value >>= f) = f value := rfl

@[simp] theorem fail_bind (error : ε) (f : α → Plan I ε β) :
    ((Plan.fail error : Plan I ε α) >>= f) = .fail error := rfl

@[simp] theorem ask_bind (question : I.Question) (next : I.Answer question → Plan I ε α)
    (f : α → Plan I ε β) :
    (Plan.ask question next >>= f) = .ask question (fun answer => next answer >>= f) := rfl

@[simp] theorem bind_done (plan : Plan I ε α) : (plan >>= Plan.done) = plan := by
  induction plan with
  | done => rfl
  | fail => rfl
  | ask question next ih => exact congrArg (Plan.ask question) (funext ih)

theorem bind_assoc (plan : Plan I ε α) (f : α → Plan I ε β) (g : β → Plan I ε γ) :
    (plan >>= f >>= g) = (plan >>= fun value => f value >>= g) := by
  induction plan with
  | done => rfl
  | fail => rfl
  | ask question next ih => exact congrArg (Plan.ask question) (funext ih)

instance : LawfulMonad (Plan I ε) :=
  LawfulMonad.mk' (Plan I ε) bind_done (fun _ _ => rfl) bind_assoc

theorem run_bind (answer : (question : I.Question) → Act σ (I.Answer question))
    (plan : Plan I ε α) (f : α → Plan I ε β) (world : World σ) :
    (plan >>= f).run answer world =
      match plan.run answer world with
      | (some (.ok value), world) => (f value).run answer world
      | (some (.error error), world) => (some (.error error), world)
      | (none, world) => (none, world) := by
  induction plan generalizing world with
  | done => rfl
  | fail => rfl
  | ask question next ih =>
    simp only [ask_bind, run]
    split
    · exact ih _ _
    · rfl

theorem run_recover (answer : (question : I.Question) → Act σ (I.Answer question))
    (plan : Plan I ε α) (f : ε → Plan I ε' α) (world : World σ) :
    (plan.recover f).run answer world =
      match plan.run answer world with
      | (some (.ok value), world) => (some (.ok value), world)
      | (some (.error error), world) => (f error).run answer world
      | (none, world) => (none, world) := by
  induction plan generalizing world with
  | done => rfl
  | fail => rfl
  | ask question next ih =>
    simp only [recover, run]
    split
    · exact ih _ _
    · rfl

end Plan

end ParamTree
