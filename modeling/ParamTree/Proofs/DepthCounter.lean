import ParamTree.Proofs.BlamedTokens

/-!
# Counting nested levels

A parser with one place in the tokens and one count of nested levels. The count goes up before a
nested expression, behind a sign and for every operator, call, member and index, and it goes down
again in two ways: by one, or to what it was at a mark. Main statements: `extends_of_le` and
`parse_of_le`.
-/

namespace ParamTree.Counting

open ParamTree.Parser (levels unaryOp? key? atom startsSuffix operator?)

/-- The place of the next token and the count of nested levels. -/
structure State where
  pos : Nat
  depth : Nat

/-- A method gives no result if it does not end with the fuel that it has. -/
abbrev Counted (α : Type) : Type := StateT State (ExceptT SyntaxError Option) α

def unended {α : Type} : Counted α :=
  fun _ => ExceptT.mk none

section

variable (tokens : List Located)

/-- The tokens from a place on. The last one is not passed. -/
def restAt (pos : Nat) : List Located :=
  tokens.drop (min pos (tokens.length - 1))

/-- The place behind the next token. -/
def next (pos : Nat) : Nat :=
  if pos < tokens.length - 1 then pos + 1 else pos

def upcoming : Counted (List Located) := do
  return restAt tokens (← get).pos

def peek : Counted Token := do
  return Parser.peek (← upcoming tokens)

def advance : Counted Token := do
  let token ← peek tokens
  modify fun s => { s with pos := next tokens s.pos }
  return token

def fail {α : Type} (fault : SyntaxFault) : Counted α := do
  throw ⟨fault, Parser.offset (← upcoming tokens)⟩

def eat (sign : Symbol) : Counted Bool := do
  if (← peek tokens) = .symbol sign then
    let _ ← advance tokens
    return true
  else
    return false

def expect (sign : Symbol) (what : Expected) : Counted Unit := do
  if ← eat tokens sign then
    return ()
  else
    fail tokens (.expected what (← peek tokens))

def enter : Counted Unit := do
  modify fun s => { s with depth := s.depth + 1 }
  if Expr.maxDepth < (← get).depth then
    fail tokens .nestedTooDeeply
  else
    return ()

def leave : Counted Unit :=
  modify fun s => { s with depth := s.depth - 1 }

def reset (mark : Nat) : Counted Unit :=
  modify fun s => { s with depth := mark }

/-- One turn of the loop over the items of a list or of an object. -/
def itemsTurn {α : Type} (item : Counted α) (others : Counted (List α)) (closing : Symbol)
    (what : Expected) : Counted (List α) := do
  if ← eat tokens closing then
    return []
  else
    let first ← item
    if ← eat tokens .comma then
      return first :: (← others)
    else
      expect tokens closing what
      return [first]

mutual

def expression : Nat → Counted Expr
  | 0 => unended
  | fuel + 1 => do
    enter tokens
    let e ← conditional fuel
    leave
    return e

def conditional : Nat → Counted Expr
  | 0 => unended
  | fuel + 1 => do
    let condition ← level fuel 6
    if ← eat tokens .question then
      let yes ← expression fuel
      expect tokens .colon .conditionalColon
      let no ← expression fuel
      return .conditional condition yes no
    else
      return condition

/-- An operation with operators of the given number of levels. -/
def level : Nat → Nat → Counted Expr
  | 0, _ => unended
  | fuel + 1, 0 => unary fuel
  | fuel + 1, count + 1 => do
    let mark := (← get).depth
    let left ← level fuel count
    chain fuel count mark left

def chain : Nat → Nat → Nat → Expr → Counted Expr
  | 0, _, _, _ => unended
  | fuel + 1, count, mark, left => do
    let rest ← upcoming tokens
    match levels[count]?.bind (operator? · rest) with
    | none =>
      reset mark
      return left
    | some join =>
      let _ ← advance tokens
      enter tokens
      let right ← level fuel count
      chain fuel count mark (join left right)

def unary : Nat → Counted Expr
  | 0 => unended
  | fuel + 1 => do
    match unaryOp? (← peek tokens) with
    | none => postfixed fuel
    | some op =>
      let _ ← advance tokens
      enter tokens
      let inner ← unary fuel
      leave
      return .unary op inner

def postfixed : Nat → Counted Expr
  | 0 => unended
  | fuel + 1 => do
    let mark := (← get).depth
    let target ← primary fuel
    suffixes fuel mark target

def suffixes : Nat → Nat → Expr → Counted Expr
  | 0, _, _ => unended
  | fuel + 1, mark, target => do
    if startsSuffix (← upcoming tokens) then
      enter tokens
      let longer ← suffix fuel target
      suffixes fuel mark longer
    else
      reset mark
      return target

def suffix : Nat → Expr → Counted Expr
  | 0, _ => unended
  | fuel + 1, target => do
    let token ← peek tokens
    if token = .symbol .lParen then
      match target with
      | .name callee =>
        let _ ← advance tokens
        let args ← list fuel .rParen .parenAfterArguments
        return .call callee args
      | _ => fail tokens .notCallable
    else if token = .symbol .dot then
      let _ ← advance tokens
      match ← advance tokens with
      | .ident property => return .member target property
      | other => fail tokens (.expected .propertyName other)
    else
      let _ ← advance tokens
      let index ← expression fuel
      expect tokens .rBracket .closingBracket
      return .index target index

def list : Nat → Symbol → Expected → Counted (List Expr)
  | 0, _, _ => unended
  | fuel + 1, closing, what =>
    itemsTurn tokens (expression fuel) (list fuel closing what) closing what

def primary : Nat → Counted Expr
  | 0 => unended
  | fuel + 1 => do
    match ← advance tokens with
    | .number value => return .literal (.number value)
    | .string text => return .literal (.string text)
    | .ident name => return atom name
    | .symbol .lParen =>
      let inner ← expression fuel
      expect tokens .rParen .closingParen
      return inner
    | .symbol .lBracket =>
      let elements ← list fuel .rBracket .bracketAfterItems
      return .array elements
    | .symbol .lBrace =>
      let entries ← object fuel
      return .object entries
    | token =>
      -- the error is at the token that was taken
      modify fun s => { s with pos := s.pos - if token = .eof then 0 else 1 }
      fail tokens (.unexpected token)

def object : Nat → Counted (List (String × Expr))
  | 0 => unended
  | fuel + 1 => itemsTurn tokens (entry fuel) (object fuel) .rBrace .braceAfterEntries

def entry : Nat → Counted (String × Expr)
  | 0 => unended
  | fuel + 1 => do
    let token ← advance tokens
    match key? token with
    | none => fail tokens (.expected .objectKey token)
    | some key =>
      expect tokens .colon .colonAfterKey
      let value ← expression fuel
      return (key, value)

end

/-- The expression that the tokens spell from the first to the last. -/
def whole (fuel : Nat) : Counted Expr := do
  let e ← expression tokens fuel
  let token ← peek tokens
  if token = .eof then
    return e
  else
    fail tokens (.unexpectedAfter token)

end

def parse (text : String) (fuel : Nat) : Option (Except SyntaxError Expr) :=
  match Token.ofText text with
  | .error error => some (.error error)
  | .ok tokens => (whole tokens fuel ⟨0, 0⟩).run.map (Except.map Prod.fst)

/-! ### More fuel -/

section

variable {α β : Type} {m m' : Counted α} {s s' : State} {a : α}

theorem bind_of_ok (h : m s = some (.ok (a, s'))) (f : α → Counted β) : (m >>= f) s = f a s' := by
  change ExceptT.bind (m s) _ = _
  rw [h]
  rfl

theorem bind_of_error {error : SyntaxError} (h : m s = some (.error error)) (f : α → Counted β) :
    (m >>= f) s = some (.error error) := by
  change ExceptT.bind (m s) _ = _
  rw [h]
  rfl

theorem bind_of_none (h : m s = none) (f : α → Counted β) : (m >>= f) s = none := by
  change ExceptT.bind (m s) _ = _
  rw [h]
  rfl

theorem bind_congr (h : m s = m' s') (f : α → Counted β) : (m >>= f) s = (m' >>= f) s' := by
  change ExceptT.bind (m s) _ = ExceptT.bind (m' s') _
  rw [h]

/-- Every result of the first method is one of the second. -/
def Below (m m' : Counted α) : Prop :=
  ∀ s result, m s = some result → m' s = some result

theorem below_unended (m : Counted α) : Below unended m :=
  fun _ _ h => nomatch h

theorem Below.refl (m : Counted α) : Below m m :=
  fun _ _ h => h

theorem Below.bind {f f' : α → Counted β} (h : Below m m') (hf : ∀ a, Below (f a) (f' a)) :
    Below (m >>= f) (m' >>= f') := by
  intro s result hRun
  cases hFirst : m s with
  | none =>
    rw [bind_of_none hFirst] at hRun
    cases hRun
  | some first =>
    cases first with
    | error error =>
      rw [bind_of_error hFirst] at hRun
      rw [bind_of_error (h s _ hFirst), hRun]
    | ok taken =>
      rw [bind_of_ok hFirst] at hRun
      rw [bind_of_ok (h s _ hFirst)]
      exact hf _ _ _ hRun

theorem Below.after {f f' : α → Counted β} (hf : ∀ a, Below (f a) (f' a)) :
    Below (m >>= f) (m >>= f') :=
  (Below.refl m).bind hf

theorem Below.ite {condition : Prop} [Decidable condition] {other other' : Counted α}
    (h : Below m m') (hOther : Below other other') :
    Below (if condition then m else other) (if condition then m' else other') := by
  split
  · exact h
  · exact hOther

end

theorem below_itemsTurn {tokens : List Located} {α : Type} {item item' : Counted α}
    {others others' : Counted (List α)} (hItem : Below item item') (hOthers : Below others others')
    (closing : Symbol) (what : Expected) :
    Below (itemsTurn tokens item others closing what)
      (itemsTurn tokens item' others' closing what) := by
  apply Below.after
  intro closed
  refine Below.ite (.refl _) ?_
  apply hItem.bind
  intro first
  apply Below.after
  intro comma
  exact Below.ite (hOthers.bind fun rest => .refl _) (.refl _)

/-- No method has another result with more fuel. -/
structure Extends (tokens : List Located) (fuel more : Nat) : Prop where
  expression : Below (expression tokens fuel) (expression tokens more)
  conditional : Below (conditional tokens fuel) (conditional tokens more)
  level count : Below (level tokens fuel count) (level tokens more count)
  chain count mark left :
    Below (chain tokens fuel count mark left) (chain tokens more count mark left)
  unary : Below (unary tokens fuel) (unary tokens more)
  postfixed : Below (postfixed tokens fuel) (postfixed tokens more)
  suffixes mark target : Below (suffixes tokens fuel mark target) (suffixes tokens more mark target)
  suffix target : Below (suffix tokens fuel target) (suffix tokens more target)
  list closing what : Below (list tokens fuel closing what) (list tokens more closing what)
  primary : Below (primary tokens fuel) (primary tokens more)
  object : Below (object tokens fuel) (object tokens more)
  entry : Below (entry tokens fuel) (entry tokens more)

section

variable {tokens : List Located} {fuel more : Nat} (h : Extends tokens fuel more)
include h

theorem Extends.conditional_succ :
    Below (Counting.conditional tokens (fuel + 1)) (Counting.conditional tokens (more + 1)) := by
  rw [Counting.conditional, Counting.conditional]
  apply (h.level 6).bind
  intro condition
  apply Below.after
  intro eaten
  refine Below.ite ?_ (.refl _)
  apply h.expression.bind
  intro yes
  apply Below.after
  intro colon
  exact h.expression.bind fun no => .refl _

theorem Extends.level_succ (count : Nat) :
    Below (Counting.level tokens (fuel + 1) count) (Counting.level tokens (more + 1) count) := by
  cases count with
  | zero =>
    rw [Counting.level, Counting.level]
    exact h.unary
  | succ count =>
    rw [Counting.level, Counting.level]
    apply Below.after
    intro mark
    exact (h.level count).bind fun left => h.chain count _ left

theorem Extends.chain_succ (count mark : Nat) (left : Expr) :
    Below (Counting.chain tokens (fuel + 1) count mark left)
      (Counting.chain tokens (more + 1) count mark left) := by
  rw [Counting.chain, Counting.chain]
  apply Below.after
  intro rest
  cases levels[count]?.bind (operator? · rest) with
  | none => exact .refl _
  | some join =>
    apply Below.after
    intro token
    apply Below.after
    intro entered
    exact (h.level count).bind fun right => h.chain count mark _

theorem Extends.unary_succ :
    Below (Counting.unary tokens (fuel + 1)) (Counting.unary tokens (more + 1)) := by
  rw [Counting.unary, Counting.unary]
  apply Below.after
  intro token
  cases unaryOp? token with
  | none => exact h.postfixed
  | some op =>
    apply Below.after
    intro sign
    apply Below.after
    intro entered
    exact h.unary.bind fun inner => .refl _

theorem Extends.suffixes_succ (mark : Nat) (target : Expr) :
    Below (Counting.suffixes tokens (fuel + 1) mark target)
      (Counting.suffixes tokens (more + 1) mark target) := by
  rw [Counting.suffixes.eq_def, Counting.suffixes.eq_def]
  apply Below.after
  intro rest
  refine Below.ite ?_ (.refl _)
  apply Below.after
  intro entered
  exact (h.suffix target).bind fun longer => h.suffixes mark longer

theorem Extends.suffix_succ (target : Expr) :
    Below (Counting.suffix tokens (fuel + 1) target) (Counting.suffix tokens (more + 1) target) := by
  rw [Counting.suffix.eq_def, Counting.suffix.eq_def]
  apply Below.after
  intro token
  refine Below.ite ?_ (Below.ite (.refl _) ?_)
  · cases target with
    | name callee =>
      apply Below.after
      intro paren
      exact (h.list _ _).bind fun args => .refl _
    | _ => exact .refl _
  · apply Below.after
    intro bracket
    exact h.expression.bind fun index => .refl _

theorem Extends.primary_succ :
    Below (Counting.primary tokens (fuel + 1)) (Counting.primary tokens (more + 1)) := by
  rw [Counting.primary, Counting.primary]
  apply Below.after
  intro token
  cases token with
  | symbol sign =>
    cases sign
    case lParen => exact h.expression.bind fun inner => .refl _
    case lBracket => exact (h.list _ _).bind fun elements => .refl _
    case lBrace => exact h.object.bind fun entries => .refl _
    all_goals exact .refl _
  | _ => exact .refl _

theorem Extends.entry_succ :
    Below (Counting.entry tokens (fuel + 1)) (Counting.entry tokens (more + 1)) := by
  rw [Counting.entry, Counting.entry]
  apply Below.after
  intro token
  cases key? token with
  | none => exact .refl _
  | some key =>
    apply Below.after
    intro colon
    exact h.expression.bind fun value => .refl _

end

theorem extends_of_le {tokens : List Located} {fuel more : Nat} (h : fuel ≤ more) :
    Extends tokens fuel more := by
  induction fuel generalizing more with
  | zero =>
    constructor <;> simp only [expression, conditional, level, chain, unary, postfixed, suffixes,
      suffix, list, primary, object, entry, below_unended, implies_true]
  | succ fuel ih =>
    obtain ⟨more, rfl⟩ : ∃ less, more = less + 1 := ⟨more - 1, by omega⟩
    have hLess := ih (Nat.le_of_succ_le_succ h)
    constructor
    case expression =>
      rw [expression, expression]
      apply Below.after
      intro entered
      exact hLess.conditional.bind fun e => .refl _
    case conditional => exact hLess.conditional_succ
    case level => exact hLess.level_succ
    case chain => exact hLess.chain_succ
    case unary => exact hLess.unary_succ
    case postfixed =>
      rw [postfixed, postfixed]
      apply Below.after
      intro mark
      exact hLess.primary.bind fun target => hLess.suffixes _ target
    case suffixes => exact hLess.suffixes_succ
    case suffix => exact hLess.suffix_succ
    case list =>
      intro closing what
      rw [list, list]
      exact below_itemsTurn hLess.expression (hLess.list closing what) closing what
    case primary => exact hLess.primary_succ
    case object =>
      rw [object, object]
      exact below_itemsTurn hLess.entry hLess.object _ _
    case entry => exact hLess.entry_succ

theorem below_whole_of_le {tokens : List Located} {fuel more : Nat} (h : fuel ≤ more) :
    Below (whole tokens fuel) (whole tokens more) :=
  (extends_of_le h).expression.bind fun _ => .refl _

theorem parse_of_le {text : String} {fuel more : Nat} {result : Except SyntaxError Expr}
    (h : fuel ≤ more) (hParse : parse text fuel = some result) : parse text more = some result := by
  rw [parse] at hParse ⊢
  cases hTokens : Token.ofText text with
  | error error =>
    rw [hTokens] at hParse
    exact hParse
  | ok tokens =>
    rw [hTokens] at hParse
    obtain ⟨last, hLast, hResult⟩ := Option.map_eq_some_iff.mp hParse
    exact Option.map_eq_some_iff.mpr ⟨last, below_whole_of_le h _ _ hLast, hResult⟩

end ParamTree.Counting
