import ParamTree.Expr.Basic
import ParamTree.Expr.Lexer

/-!
# Expressions from tokens

A parser takes an expression off the front of the tokens. Every nested expression, every sign in
front of an operand, every binary operator of a chain and every call, member or index uses up one
level of a budget; siblings do not share theirs. From the loosest to the tightest, the operators are
the conditional, `||`, `&&`, `== !=`, `< <= > >=`, `+ -`, `* / %`, the signs `! - +`, and calls,
members and indexes.

Main statement: `operand_eq`, by which the operands of all budgets follow one rule.
-/

namespace ParamTree

abbrev Parser (α : Type) : Type := List Located → Except SyntaxError (α × List Located)

namespace Parser

def peek : List Located → Token
  | [] => .eof
  | located :: _ => located.token

def offset : List Located → Nat
  | [] => 0
  | located :: _ => located.offset

/-- The tokens behind the first one; the end of the expression stays. -/
def advance : List Located → List Located
  | [] => []
  | located :: rest => if located.token = .eof then located :: rest else rest

def failAt {α : Type} (tokens : List Located) (fault : SyntaxFault) : Except SyntaxError α :=
  .error ⟨fault, offset tokens⟩

def eat? (sign : Symbol) : List Located → Option (List Located)
  | [] => none
  | located :: rest => if located.token = .symbol sign then some rest else none

def expect (sign : Symbol) (what : Expected) (tokens : List Located) :
    Except SyntaxError (List Located) :=
  match eat? sign tokens with
  | some rest => .ok rest
  | none => failAt tokens (.expected what (peek tokens))

def tooDeep {α : Type} : Parser α := fun tokens =>
  failAt tokens .nestedTooDeeply

/-- Items with commas between them, and perhaps one behind the last, up to the closing sign. -/
def items {α : Type} (item : Parser α) (closing : Symbol) (what : Expected)
    (tokens : List Located) : Except SyntaxError (List α × List Located) :=
  match eat? closing tokens with
  | some rest => .ok ([], rest)
  | none => do
    let (first, rest) ← item tokens
    match eat? .comma rest with
    | none => do
      let rest ← expect closing what rest
      return ([first], rest)
    | some rest =>
      if rest.length < tokens.length then do
        let (others, rest) ← items item closing what rest
        return (first :: others, rest)
      else
        failAt rest (.unexpected (peek rest))
termination_by tokens.length

def key? : Token → Option String
  | .ident name => some name
  | .string text => some text
  | .number value => some value.text
  | _ => none

def entry (value : Parser Expr) : Parser (String × Expr) := fun tokens =>
  match key? (peek tokens) with
  | none => failAt (advance tokens) (.expected .objectKey (peek tokens))
  | some key => do
    let rest ← expect .colon .colonAfterKey (advance tokens)
    let (value, rest) ← value rest
    return ((key, value), rest)

def atom (name : String) : Expr :=
  if name = "true" then .literal (.bool true)
  else if name = "false" then .literal (.bool false)
  else if name = "null" then .literal .null
  else .name name

def primary (nested : Parser Expr) : Parser Expr := fun tokens =>
  match peek tokens with
  | .number value => .ok (.literal (.number value), advance tokens)
  | .string text => .ok (.literal (.string text), advance tokens)
  | .ident name => .ok (atom name, advance tokens)
  | .symbol .lParen => do
    let (inner, rest) ← nested (advance tokens)
    let rest ← expect .rParen .closingParen rest
    return (inner, rest)
  | .symbol .lBracket => do
    let (elements, rest) ← items nested .rBracket .bracketAfterItems (advance tokens)
    return (.array elements, rest)
  | .symbol .lBrace => do
    let (entries, rest) ← items (entry nested) .rBrace .braceAfterEntries (advance tokens)
    return (.object entries, rest)
  | token => failAt tokens (.unexpected token)

def startsSuffix (tokens : List Located) : Bool :=
  peek tokens = .symbol .lParen || peek tokens = .symbol .dot || peek tokens = .symbol .lBracket

/-- The call, member or index that the next token begins. Only a name can be called. -/
def suffix (nested : Parser Expr) (target : Expr) : Parser Expr := fun tokens =>
  let rest := advance tokens
  if peek tokens = .symbol .lParen then
    match target with
    | .name callee => do
      let (args, rest) ← items nested .rParen .parenAfterArguments rest
      return (.call callee args, rest)
    | _ => failAt tokens .notCallable
  else if peek tokens = .symbol .dot then
    match peek rest with
    | .ident property => .ok (.member target property, advance rest)
    | token => failAt (advance rest) (.expected .propertyName token)
  else do
    let (index, rest) ← nested rest
    let rest ← expect .rBracket .closingBracket rest
    return (.index target index, rest)

def suffixes (nested : Nat → Parser Expr) : Nat → Expr → Parser Expr
  | 0, target, tokens => if startsSuffix tokens then tooDeep tokens else .ok (target, tokens)
  | budget + 1, target, tokens =>
    if startsSuffix tokens then do
      let (target, rest) ← suffix (nested budget) target tokens
      suffixes nested budget target rest
    else
      .ok (target, tokens)

def postfixed (nested : Nat → Parser Expr) (budget : Nat) : Parser Expr := fun tokens => do
  let (target, rest) ← primary (nested budget) tokens
  suffixes nested budget target rest

abbrev Operators : Type := Symbol → Option (Expr → Expr → Expr)

def products : Operators
  | .star => some (.binary (.arith .mul))
  | .slash => some (.binary (.arith .div))
  | .percent => some (.binary (.arith .rem))
  | _ => none

def sums : Operators
  | .plus => some (.binary (.arith .add))
  | .minus => some (.binary (.arith .sub))
  | _ => none

def orders : Operators
  | .lt => some (.binary (.order .lt))
  | .le => some (.binary (.order .le))
  | .gt => some (.binary (.order .gt))
  | .ge => some (.binary (.order .ge))
  | _ => none

def equalities : Operators
  | .eqEq => some (.binary .eq)
  | .notEq => some (.binary .notEq)
  | _ => none

def conjunctions : Operators
  | .andAnd => some .and
  | _ => none

def disjunctions : Operators
  | .orOr => some .or
  | _ => none

/-- The levels of binary operators, the tightest first. -/
def levels : List Operators :=
  [products, sums, orders, equalities, conjunctions, disjunctions]

def operator? (operators : Operators) (tokens : List Located) : Option (Expr → Expr → Expr) :=
  match peek tokens with
  | .symbol sign => operators sign
  | _ => none

/-- Joins further operands to the left one as long as operators of the level follow. -/
def chain (operators : Operators) (operand : Nat → Parser Expr) : Nat → Expr → Parser Expr
  | 0, left, tokens =>
    match operator? operators tokens with
    | none => .ok (left, tokens)
    | some _ => tooDeep (advance tokens)
  | budget + 1, left, tokens =>
    match operator? operators tokens with
    | none => .ok (left, tokens)
    | some join => do
      let (right, rest) ← operand budget (advance tokens)
      chain operators operand budget (join left right) rest

def level (operand : Nat → Parser Expr) (operators : Operators) (budget : Nat) : Parser Expr :=
  fun tokens => do
    let (left, rest) ← operand budget tokens
    chain operators operand budget left rest

def operation (operand : Nat → Parser Expr) : Nat → Parser Expr :=
  levels.foldl level operand

def conditional (condition branch : Parser Expr) : Parser Expr := fun tokens => do
  let (condition, rest) ← condition tokens
  match eat? .question rest with
  | none => return (condition, rest)
  | some rest => do
    let (yes, rest) ← branch rest
    let rest ← expect .colon .conditionalColon rest
    let (no, rest) ← branch rest
    return (.conditional condition yes no, rest)

def expression (operand : Nat → Parser Expr) : Nat → Parser Expr
  | 0 => tooDeep
  | budget + 1 => conditional (operation operand budget) (expression operand budget)

def unaryOp? : Token → Option UnaryOp
  | .symbol .bang => some .not
  | .symbol .minus => some .neg
  | .symbol .plus => some .plus
  | _ => none

/-- An operand of the binary operators, given the operands of smaller budgets. -/
def operandStep (operand : Nat → Parser Expr) (budget : Nat) : Parser Expr := fun tokens =>
  match unaryOp? (peek tokens) with
  | none => postfixed (expression operand) budget tokens
  | some op =>
    match budget with
    | 0 => tooDeep (advance tokens)
    | budget + 1 => do
      let (inner, rest) ← operand budget (advance tokens)
      return (.unary op inner, rest)

def operandBelow : Nat → Nat → Parser Expr
  | 0 => fun _ => tooDeep
  | bound + 1 => operandStep (operandBelow bound)

def operand (budget : Nat) : Parser Expr :=
  operandBelow (budget + 1) budget

theorem chain_congr {f g : Nat → Parser Expr} {n : Nat} (h : ∀ b < n, f b = g b)
    (operators : Operators) (left : Expr) :
    chain operators f n left = chain operators g n left := by
  induction n generalizing left with
  | zero => rfl
  | succ n ih =>
    funext tokens
    simp only [chain, h n (Nat.lt_succ_self n)]
    have hn := ih (fun b hb => h b (Nat.lt_succ_of_lt hb))
    simp only [hn]

theorem level_congr {f g : Nat → Parser Expr} {n : Nat} (h : ∀ b ≤ n, f b = g b)
    (operators : Operators) : ∀ b ≤ n, level f operators b = level g operators b := by
  intro b hb
  funext tokens
  have hChain := chain_congr (fun c hc => h c (Nat.le_trans (Nat.le_of_lt hc) hb)) operators
  simp only [level, h b hb, hChain]

/-- The operators of the first levels over the given operands. -/
def levelOf (operand : Nat → Parser Expr) (count : Nat) : Nat → Parser Expr :=
  (levels.take count).foldl level operand

theorem levelOf_succ {operand : Nat → Parser Expr} {count : Nat} {operators : Operators}
    (h : levels[count]? = some operators) :
    levelOf operand (count + 1) = level (levelOf operand count) operators := by
  rw [levelOf, List.take_add_one, h, List.foldl_append]
  rfl

/-- What holds of the operands, and of each level if it holds of what the level joins, holds of the
levels on top of the operands. -/
theorem levelOf_induction {motive : Nat → (Nat → Parser Expr) → Prop} {operand : Nat → Parser Expr}
    (hOperand : motive 0 operand)
    (hLevel : ∀ count operators nested, levels[count]? = some operators → motive count nested →
      motive (count + 1) (level nested operators)) {count : Nat} (hCount : count ≤ 6) :
    motive count (levelOf operand count) := by
  induction count with
  | zero => exact hOperand
  | succ count ih =>
    have hOperators : levels[count]? = some levels[count] := List.getElem?_eq_getElem hCount
    rw [levelOf_succ hOperators]
    exact hLevel count _ _ hOperators (ih (Nat.le_of_succ_le hCount))

theorem operation_congr {f g : Nat → Parser Expr} {n : Nat} (h : ∀ b ≤ n, f b = g b) :
    ∀ b ≤ n, operation f b = operation g b := by
  apply levelOf_induction
    (motive := fun count nested => ∀ b ≤ n, nested b = levelOf g count b) h _ (Nat.le_refl 6)
  intro count operators nested hOperators hNested
  rw [levelOf_succ hOperators]
  exact level_congr hNested operators

theorem expression_congr {f g : Nat → Parser Expr} {n : Nat} (h : ∀ b < n, f b = g b) :
    expression f n = expression g n := by
  induction n with
  | zero => rfl
  | succ n ih =>
    rw [expression, expression, ih (fun b hb => h b (Nat.lt_succ_of_lt hb)),
      operation_congr (fun b hb => h b (Nat.lt_succ_of_le hb)) n (Nat.le_refl n)]

theorem suffixes_congr {f g : Nat → Parser Expr} {n : Nat} (h : ∀ b < n, f b = g b)
    (target : Expr) : suffixes f n target = suffixes g n target := by
  induction n generalizing target with
  | zero => rfl
  | succ n ih =>
    funext tokens
    have hn := ih (fun b hb => h b (Nat.lt_succ_of_lt hb))
    simp only [suffixes, h n (Nat.lt_succ_self n), hn]

theorem operandStep_congr {f g : Nat → Parser Expr} {n : Nat} (h : ∀ b < n, f b = g b) :
    operandStep f n = operandStep g n := by
  have hExpr : ∀ b ≤ n, expression f b = expression g b := fun b hb =>
    expression_congr (fun c hc => h c (Nat.lt_of_lt_of_le hc hb))
  have hSuffixes := suffixes_congr (fun b hb => hExpr b (Nat.le_of_lt hb))
  funext tokens
  cases n with
  | zero => simp only [operandStep, postfixed, hExpr 0 (Nat.le_refl 0), hSuffixes]
  | succ n =>
    simp only [operandStep, postfixed, hExpr (n + 1) (Nat.le_refl _), hSuffixes,
      h n (Nat.lt_succ_self n)]

theorem operandBelow_eq {bound budget : Nat} (h : budget < bound) :
    operandBelow bound budget = operand budget := by
  induction budget using Nat.strongRecOn generalizing bound with
  | ind budget ih =>
    obtain ⟨m, rfl⟩ : ∃ m, bound = m + 1 := ⟨bound - 1, by omega⟩
    apply operandStep_congr
    intro b hb
    rw [ih b hb (by omega), ih b hb (by omega)]

theorem operand_eq (budget : Nat) : operand budget = operandStep operand budget :=
  operandStep_congr (fun _ hb => operandBelow_eq hb)

end Parser

def Expr.maxDepth : Nat := 128

/-- The expression that tokens spell from the first to the last. -/
def Expr.ofTokens (tokens : List Located) : Except SyntaxError Expr := do
  let (expr, rest) ← Parser.expression Parser.operand Expr.maxDepth tokens
  if Parser.peek rest = .eof then
    return expr
  else
    Parser.failAt rest (.unexpectedAfter (Parser.peek rest))

def Expr.ofText (text : String) : Except SyntaxError Expr := do
  let tokens ← Token.ofText text
  Expr.ofTokens tokens

end ParamTree
