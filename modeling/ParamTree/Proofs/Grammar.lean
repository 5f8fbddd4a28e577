import ParamTree.Expr.Parser

/-!
# The grammar of expressions

Which tokens spell which expression, nonterminal by nonterminal, and within which budget of nested
levels. The operators of one level of precedence form a chain behind their first operand, as do the
calls, members and indexes behind a primary; each of them takes a level of the budget from all that
follows it, but not from what stands before it.

One token is enough to decide how a phrase begins and whether it goes on.
-/

namespace ParamTree

namespace Grammar

open ParamTree.Parser (levels unaryOp? key? atom)

/-- The nonterminals. Some continue an expression that has been read; lists of items and of entries
are phrases whose expression is an array and an object. -/
inductive Category where
  | expression
  /-- Operands, joined by operators of the given number of levels. -/
  | level (count : Nat)
  | chain (count : Nat) (left : Expr)
  | primary
  | suffixes (target : Expr)
  | items (closing : Symbol)
  | entries

/-- The sign is an operator of the level with the given number. -/
def Joins (number : Nat) (sign : Symbol) (join : Expr → Expr → Expr) : Prop :=
  ∃ operators, levels[number]? = some operators ∧ operators sign = some join

inductive Derives : Category → Nat → List Token → Expr → Prop where
  | single {budget xs e} : Derives (.level 6) budget xs e → Derives .expression (budget + 1) xs e
  | conditional {budget xs ys zs condition yes no} :
    Derives (.level 6) budget xs condition → Derives .expression budget ys yes →
    Derives .expression budget zs no →
    Derives .expression (budget + 1)
      (xs ++ .symbol .question :: ys ++ .symbol .colon :: zs) (.conditional condition yes no)
  | level {count budget xs ys left e} :
    count < 6 → Derives (.level count) budget xs left → Derives (.chain count left) budget ys e →
    Derives (.level (count + 1)) budget (xs ++ ys) e
  | chainEnd {count budget left} : Derives (.chain count left) budget [] left
  | chainMore {count budget xs ys sign join left right e} :
    Joins count sign join → Derives (.level count) budget xs right →
    Derives (.chain count (join left right)) budget ys e →
    Derives (.chain count left) (budget + 1) (.symbol sign :: xs ++ ys) e
  | unary {budget token op xs e} :
    unaryOp? token = some op → Derives (.level 0) budget xs e →
    Derives (.level 0) (budget + 1) (token :: xs) (.unary op e)
  | postfixed {budget xs ys target e} :
    Derives .primary budget xs target → Derives (.suffixes target) budget ys e →
    Derives (.level 0) budget (xs ++ ys) e
  | suffixesEnd {budget target} : Derives (.suffixes target) budget [] target
  | call {budget xs ys callee args e} :
    Derives (.items .rParen) budget xs (.array args) →
    Derives (.suffixes (.call callee args)) budget ys e →
    Derives (.suffixes (.name callee)) (budget + 1) (.symbol .lParen :: xs ++ ys) e
  | member {budget ys target property e} :
    Derives (.suffixes (.member target property)) budget ys e →
    Derives (.suffixes target) (budget + 1) (.symbol .dot :: .ident property :: ys) e
  | index {budget xs ys target position e} :
    Derives .expression budget xs position →
    Derives (.suffixes (.index target position)) budget ys e →
    Derives (.suffixes target) (budget + 1)
      (.symbol .lBracket :: xs ++ .symbol .rBracket :: ys) e
  | number {budget value} : Derives .primary budget [.number value] (.literal (.number value))
  | string {budget value} : Derives .primary budget [.string value] (.literal (.string value))
  | ident {budget name} : Derives .primary budget [.ident name] (atom name)
  | group {budget xs e} :
    Derives .expression budget xs e →
    Derives .primary budget (.symbol .lParen :: xs ++ [.symbol .rParen]) e
  | array {budget xs elements} :
    Derives (.items .rBracket) budget xs (.array elements) →
    Derives .primary budget (.symbol .lBracket :: xs) (.array elements)
  | object {budget xs fields} :
    Derives .entries budget xs (.object fields) →
    Derives .primary budget (.symbol .lBrace :: xs) (.object fields)
  | itemsEnd {closing budget} : Derives (.items closing) budget [.symbol closing] (.array [])
  | itemsLast {closing budget xs e} :
    Derives .expression budget xs e →
    Derives (.items closing) budget (xs ++ [.symbol closing]) (.array [e])
  | itemsMore {closing budget xs ys e elements} :
    Derives .expression budget xs e → Derives (.items closing) budget ys (.array elements) →
    Derives (.items closing) budget (xs ++ .symbol .comma :: ys) (.array (e :: elements))
  | entriesEnd {budget} : Derives .entries budget [.symbol .rBrace] (.object [])
  | entriesLast {budget token key xs e} :
    key? token = some key → Derives .expression budget xs e →
    Derives .entries budget (token :: .symbol .colon :: xs ++ [.symbol .rBrace])
      (.object [(key, e)])
  | entriesMore {budget token key xs ys e fields} :
    key? token = some key → Derives .expression budget xs e →
    Derives .entries budget ys (.object fields) →
    Derives .entries budget (token :: .symbol .colon :: xs ++ .symbol .comma :: ys)
      (.object ((key, e) :: fields))


theorem derives_level_add {count budget : Nat} {tokens : List Token} {e : Expr}
    (h : Derives (.level count) budget tokens e) {more : Nat} (hMore : count + more ≤ 6) :
    Derives (.level (count + more)) budget tokens e := by
  induction more with
  | zero => exact h
  | succ more ih =>
    have hChain := Derives.level hMore (ih (Nat.le_of_succ_le hMore)) .chainEnd
    rwa [List.append_nil] at hChain

/-! ### What begins a phrase and what follows it -/

/-- The level of precedence of a token that can stand behind an operand. Suffixes are tightest. -/
def rank? : Token → Option Nat
  | .symbol .lParen | .symbol .dot | .symbol .lBracket => some 0
  | .symbol .star | .symbol .slash | .symbol .percent => some 1
  | .symbol .plus | .symbol .minus => some 2
  | .symbol .lt | .symbol .le | .symbol .gt | .symbol .ge => some 3
  | .symbol .eqEq | .symbol .notEq => some 4
  | .symbol .andAnd => some 5
  | .symbol .orOr => some 6
  | .symbol .question => some 7
  | _ => none

/-- The token does not go on with a phrase of the first levels. -/
def Stops (count : Nat) (token : Token) : Prop :=
  ∀ rank, rank? token = some rank → count < rank

theorem Stops.mono {count other : Nat} {token : Token} (h : Stops count token)
    (hLe : other ≤ count) : Stops other token :=
  fun rank hRank => Nat.lt_of_le_of_lt hLe (h rank hRank)

theorem stops_of_rank_none {token : Token} (h : rank? token = none) (count : Nat) :
    Stops count token := by
  intro rank hRank
  rw [h] at hRank
  cases hRank

theorem kind_of_joins {number : Nat} {sign : Symbol} {join : Expr → Expr → Expr}
    (h : Joins number sign join) :
    (∃ op, join = .binary op) ∨ join = .and ∨ join = .or := by
  obtain ⟨operators, hOperators, hJoin⟩ := h
  have hNumber : number < 6 := (List.getElem?_eq_some_iff.mp hOperators).1
  match number, hNumber with
  | 0, _ | 1, _ | 2, _ | 3, _ | 4, _ | 5, _ =>
    cases hOperators
    cases sign <;> cases hJoin <;>
      first | exact .inl ⟨_, rfl⟩ | exact .inr (.inl rfl) | exact .inr (.inr rfl)

theorem rank_of_joins {number : Nat} {sign : Symbol} {join : Expr → Expr → Expr}
    (h : Joins number sign join) : rank? (.symbol sign) = some (number + 1) := by
  obtain ⟨operators, hOperators, hJoin⟩ := h
  have hNumber : number < 6 := (List.getElem?_eq_some_iff.mp hOperators).1
  match number, hNumber with
  | 0, _ | 1, _ | 2, _ | 3, _ | 4, _ | 5, _ =>
    cases hOperators
    cases sign <;> first | rfl | cases hJoin

def begins : Token → Bool
  | .number _ | .string _ | .ident _ => true
  | .symbol .lParen | .symbol .lBracket | .symbol .lBrace => true
  | .symbol .bang | .symbol .minus | .symbol .plus => true
  | _ => false

/-- How a phrase begins. Only operands begin with a sign. -/
def HeadOf : Category → List Token → Prop
  | .expression, xs | .level _, xs => ∃ token others, xs = token :: others ∧ begins token = true
  | .primary, xs => ∃ token others, xs = token :: others ∧ begins token = true ∧
      unaryOp? token = none
  | .chain count _, xs => xs = [] ∨ ∃ sign others, xs = .symbol sign :: others ∧
      ∃ join, Joins count sign join
  | _, _ => True

theorem begins_of_unaryOp? {token : Token} {op : UnaryOp} (h : unaryOp? token = some op) :
    begins token = true := by
  unfold unaryOp? at h
  split at h
  · rfl
  · rfl
  · rfl
  · cases h

theorem Derives.headOf {category : Category} {budget : Nat} {xs : List Token} {e : Expr}
    (h : Derives category budget xs e) : HeadOf category xs := by
  induction h with
  | single _ ih => exact ih
  | conditional _ _ _ ih _ _ =>
    obtain ⟨token, others, rfl, hBegins⟩ := ih
    exact ⟨token, _, rfl, hBegins⟩
  | level _ _ _ ih _ =>
    obtain ⟨token, others, rfl, hBegins⟩ := ih
    exact ⟨token, _, rfl, hBegins⟩
  | unary hOp _ _ => exact ⟨_, _, rfl, begins_of_unaryOp? hOp⟩
  | postfixed _ _ ih _ =>
    obtain ⟨token, others, rfl, hBegins, -⟩ := ih
    exact ⟨token, _, rfl, hBegins⟩
  | number | string | ident | group _ _ | array _ _ | object _ _ => exact ⟨_, _, rfl, rfl, rfl⟩
  | chainEnd => exact .inl rfl
  | chainMore hJoins _ _ _ _ => exact .inr ⟨_, _, rfl, _, hJoins⟩
  | suffixesEnd | call _ _ _ _ | member _ _ | index _ _ _ _ => trivial
  | itemsEnd | itemsLast _ _ | itemsMore _ _ _ _ => trivial
  | entriesEnd | entriesLast _ _ _ | entriesMore _ _ _ _ _ => trivial

def closes : Symbol → Bool
  | .rParen | .rBracket | .rBrace => true
  | _ => false

theorem begins_of_closes {closing : Symbol} (h : closes closing = true) :
    begins (.symbol closing) = false := by
  cases closing <;> first | rfl | cases h

theorem stops_of_closes {closing : Symbol} (h : closes closing = true) (count : Nat) :
    Stops count (.symbol closing) := by
  apply stops_of_rank_none
  cases closing <;> first | rfl | cases h

end Grammar

end ParamTree
