import ParamTree.Plan
import ParamTree.Json.Basic

/-!
# Parameters

The names that a document may refer to, each bound to a value or to a callable. A callable takes a
fixed number of arguments, may change the state of the world, takes its time, and returns a value,
fails or crashes.
-/

namespace ParamTree

inductive CallOutcome where
  | value (value : Json)
  | failure (message : String)
  | crash

structure CallReply where
  outcome : CallOutcome
  elapsed : Duration

structure Callable (σ : Type) where
  arity : Nat
  body : List Json → σ → CallReply × σ

inductive Binding (σ : Type) where
  | value (value : Json)
  | callable (callable : Callable σ)

structure ParameterSet (σ : Type) where
  entries : Entries (Binding σ)

variable {σ : Type}

namespace Callable

def ofFunction (arity : Nat) (f : List Json → Except String Json) : Callable σ :=
  ⟨arity, fun args state =>
    match f args with
    | .ok value => (⟨.value value, ⟨0⟩⟩, state)
    | .error message => (⟨.failure message, ⟨0⟩⟩, state)⟩

def arityMessage (arity count : Nat) : String :=
  s!"expected {arity} argument(s), got {count}"

/-- Calls with as many arguments as the callable takes, and otherwise fails without a call. -/
def call (callable : Callable σ) (args : List Json) : Act σ (Except String Json) := fun world =>
  if args.length = callable.arity then
    let (reply, state) := callable.body args world.state
    let world : World σ := ⟨state, world.now + reply.elapsed.nanoseconds⟩
    match reply.outcome with
    | .value value => (some (.ok value), world)
    | .failure message => (some (.error message), world)
    | .crash => (none, world)
  else
    (some (.error (arityMessage callable.arity args.length)), world)

end Callable

/-- What a lookup tells about a name: its value, or the number of arguments that it takes. -/
inductive Entry where
  | value (value : Json)
  | function (arity : Nat)
deriving DecidableEq

def Binding.entry : Binding σ → Entry
  | .value v => .value v
  | .callable c => .function c.arity

namespace ParameterSet

def empty : ParameterSet σ :=
  ⟨[]⟩

def ofFields (fields : Entries Json) : ParameterSet σ :=
  ⟨Entries.mapValues .value fields⟩

def ofJson? (value : Json) : Option (ParameterSet σ) :=
  value.fields?.map ofFields

def insert (params : ParameterSet σ) (name : String) (binding : Binding σ) : ParameterSet σ :=
  ⟨Entries.insert params.entries name binding⟩

def get? (params : ParameterSet σ) (name : String) : Option (Binding σ) :=
  Entries.get? params.entries name

def contains (params : ParameterSet σ) (name : String) : Bool :=
  Entries.contains params.entries name

def names (params : ParameterSet σ) : List String :=
  Entries.keys params.entries

def size (params : ParameterSet σ) : Nat :=
  params.entries.length

def isEmpty (params : ParameterSet σ) : Bool :=
  params.entries.isEmpty

def entry? (params : ParameterSet σ) (name : String) : Option Entry :=
  (params.get? name).map Binding.entry

def call (params : ParameterSet σ) (name : String) (args : List Json) :
    Act σ (Except String Json) := fun world =>
  match params.get? name with
  | some (.callable callable) => callable.call args world
  | _ => (some (.error "not a callable"), world)

/-- Without a callable of as many arguments, a call fails at once. -/
theorem exists_call_eq_error {params : ParameterSet σ} {name : String} {args : List Json}
    (h : params.entry? name ≠ some (.function args.length)) (world : World σ) :
    ∃ message, params.call name args world = (some (.error message), world) := by
  rw [call]
  split
  · rename_i callable hName
    have hArity : args.length ≠ callable.arity := by
      intro hArity
      apply h
      unfold entry?
      rw [hName, hArity]
      rfl
    exact ⟨_, if_neg hArity⟩
  · exact ⟨_, rfl⟩

/-- A call that does anything else than fail has found a callable of as many arguments. -/
theorem entry?_of_call_ne_error {params : ParameterSet σ} {name : String} {args : List Json}
    {world : World σ} (h : ∀ message, (params.call name args world).1 ≠ some (.error message)) :
    params.entry? name = some (.function args.length) := by
  apply Decidable.byContradiction
  intro hEntry
  obtain ⟨message, hCall⟩ := exists_call_eq_error hEntry world
  exact h message (congrArg Prod.fst hCall)

end ParameterSet

end ParamTree
