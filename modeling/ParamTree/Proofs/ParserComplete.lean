import ParamTree.Proofs.ParserSound

/-!
# What a parser accepts

The tokens of a derivation are read back within the budget of the derivation, if the token behind
them does not go on with the phrase. So an expression depends on the kinds of its tokens alone,
wherever they stand in a text. Main statement: `ofTokens_of_derives`.
-/

namespace ParamTree

namespace Grammar

open ParamTree.Parser

theorem startsSuffix_of_stops {count : Nat} {tokens : List Located}
    (h : Stops count (peek tokens)) : startsSuffix tokens = false := by
  have hNot : ∀ token, rank? token = some 0 → peek tokens ≠ token := by
    intro token hRank hPeek
    rw [hPeek] at h
    exact Nat.not_lt_zero _ (h 0 hRank)
  simp [startsSuffix, hNot (.symbol .lParen) rfl, hNot (.symbol .dot) rfl,
    hNot (.symbol .lBracket) rfl]

theorem operator?_of_stops {count number : Nat} {operators : Operators} {tokens : List Located}
    (hOperators : levels[number]? = some operators) (h : Stops count (peek tokens))
    (hNumber : number < count) : operator? operators tokens = none := by
  rw [operator?]
  split
  · rename_i sign hPeek
    rw [hPeek] at h
    cases hJoin : operators sign with
    | none => rfl
    | some join =>
      have hRank := h _ (rank_of_joins ⟨operators, hOperators, hJoin⟩)
      omega
  · rfl

theorem exists_cons_of_kinds {used : List Located} {token : Token} {xs : List Token}
    (h : kinds used = token :: xs) :
    ∃ located others, used = located :: others ∧ located.token = token ∧ kinds others = xs :=
  List.map_eq_cons_iff.mp h

theorem exists_singleton_of_kinds {used : List Located} {token : Token} (h : kinds used = [token]) :
    ∃ located, used = [located] ∧ located.token = token := by
  obtain ⟨located, others, rfl, hToken, hOthers⟩ := exists_cons_of_kinds h
  obtain rfl := List.map_eq_nil_iff.mp hOthers
  exact ⟨located, rfl, hToken⟩

theorem exists_append_of_kinds {used : List Located} {xs ys : List Token}
    (h : kinds used = xs ++ ys) :
    ∃ front back, used = front ++ back ∧ kinds front = xs ∧ kinds back = ys :=
  List.map_eq_append_iff.mp h

theorem unaryOp?_of_primary {budget : Nat} {xs : List Token} {e : Expr} {used : List Located}
    (h : Derives .primary budget xs e) (hUsed : kinds used = xs) (rest : List Located) :
    unaryOp? (peek (used ++ rest)) = none := by
  obtain ⟨token, others, rfl, -, hUnary⟩ := h.headOf
  obtain ⟨located, others, rfl, rfl, -⟩ := exists_cons_of_kinds hUsed
  exact hUnary

/-- What follows an operand does not go on with it: it is an operator of the level, or what follows
the whole level. -/
theorem stops_of_chain {count budget : Nat} {left e : Expr} {xs : List Token}
    {used rest : List Located} (h : Derives (.chain count left) budget xs e)
    (hUsed : kinds used = xs) (hStops : Stops (count + 1) (peek rest)) :
    Stops count (peek (used ++ rest)) := by
  obtain rfl | ⟨sign, others, rfl, join, hJoins⟩ := h.headOf
  · obtain rfl := List.map_eq_nil_iff.mp hUsed
    exact hStops.mono (Nat.le_succ count)
  · obtain ⟨located, others, rfl, hSign, -⟩ := exists_cons_of_kinds hUsed
    intro rank hRank
    change rank? located.token = some rank at hRank
    rw [hSign, rank_of_joins hJoins] at hRank
    cases hRank
    exact Nat.lt_succ_self count

theorem eat?_of_key {token : Token} {key : String} {located : Located} (hKey : key? token = some key)
    (hToken : located.token = token) (rest : List Located) : eat? .rBrace (located :: rest) = none := by
  apply if_neg
  intro hBrace
  rw [← hToken, hBrace] at hKey
  cases hKey

theorem eat?_of_derives {budget : Nat} {e : Expr} {closing : Symbol} {used : List Located}
    (h : Derives .expression budget (kinds used) e) (hCloses : closes closing = true)
    (rest : List Located) : eat? closing (used ++ rest) = none := by
  obtain ⟨token, others, hKinds, hBegins⟩ := h.headOf
  obtain ⟨located, others, rfl, rfl, -⟩ := exists_cons_of_kinds hKinds
  apply if_neg
  intro hToken
  rw [hToken, begins_of_closes hCloses] at hBegins
  cases hBegins

end Grammar

namespace Parser

open Grammar

/-! ### One production at a time -/

section Productions

variable {located closing : Located} {tokens rest : List Located} {budget : Nat} {e : Expr}

theorem advance_cons {token : Token} (h : located.token = token) (hToken : token ≠ .eof) :
    advance (located :: tokens) = tokens :=
  if_neg (h ▸ hToken)

theorem advance_symbol {sign : Symbol} (h : located.token = .symbol sign) :
    advance (located :: tokens) = tokens :=
  advance_cons h (by simp)

theorem eat?_cons {sign : Symbol} (h : located.token = .symbol sign) :
    eat? sign (located :: tokens) = some tokens :=
  if_pos h

theorem eat?_none {sign : Symbol} (h : peek tokens ≠ .symbol sign) : eat? sign tokens = none := by
  cases tokens with
  | nil => rfl
  | cons located tokens => exact if_neg h

theorem expect_cons {sign : Symbol} {what : Expected} (h : located.token = .symbol sign) :
    expect sign what (located :: tokens) = .ok tokens := by
  rw [expect, eat?_cons h]

section Items

variable {α : Type} {item : Parser α} {sign : Symbol} {what : Expected} {a : α} {others : List α}

theorem items_end (h : closing.token = .symbol sign) :
    items item sign what (closing :: rest) = .ok ([], rest) := by
  rw [items, eat?_cons h]

theorem items_last (hNone : eat? sign tokens = none) (hItem : item tokens = .ok (a, closing :: rest))
    (hClosing : closing.token = .symbol sign) (hCloses : closes sign = true) :
    items item sign what tokens = .ok ([a], rest) := by
  have hComma : eat? .comma (closing :: rest) = none := by
    apply if_neg
    intro h
    rw [Token.symbol.inj (hClosing.symm.trans h)] at hCloses
    cases hCloses
  rw [items, hNone]
  simp only [hItem, hComma, expect_cons hClosing, bind, Except.bind, pure, Except.pure]

theorem items_more {comma : Located} (hNone : eat? sign tokens = none)
    (hItem : item tokens = .ok (a, comma :: rest)) (hComma : comma.token = .symbol .comma)
    (hLength : rest.length < tokens.length) {behind : List Located}
    (hOthers : items item sign what rest = .ok (others, behind)) :
    items item sign what tokens = .ok (a :: others, behind) := by
  rw [items, hNone]
  simp only [hItem, eat?_cons hComma, hLength, if_true, hOthers, bind, Except.bind, pure,
    Except.pure]

end Items

theorem entry_eq {value : Parser Expr} {token colon : Located} {key : String}
    (hKey : key? token.token = some key) (hColon : colon.token = .symbol .colon)
    (hValue : value tokens = .ok (e, rest)) :
    entry value (token :: colon :: tokens) = .ok ((key, e), rest) := by
  have hNotEof : token.token ≠ .eof := fun h => by rw [h] at hKey; cases hKey
  rw [entry]
  simp only [peek, hKey, advance_cons rfl hNotEof, expect_cons hColon, hValue, bind, Except.bind, pure,
    Except.pure]

section Primary

variable {nested : Parser Expr}

theorem primary_number {value : Number} (h : located.token = .number value) :
    primary nested (located :: rest) = .ok (.literal (.number value), rest) := by
  rw [primary]
  simp only [peek, h, advance_cons h (by simp)]

theorem primary_string {value : String} (h : located.token = .string value) :
    primary nested (located :: rest) = .ok (.literal (.string value), rest) := by
  rw [primary]
  simp only [peek, h, advance_cons h (by simp)]

theorem primary_ident {name : String} (h : located.token = .ident name) :
    primary nested (located :: rest) = .ok (atom name, rest) := by
  rw [primary]
  simp only [peek, h, advance_cons h (by simp)]

theorem primary_group (h : located.token = .symbol .lParen)
    (hInner : nested tokens = .ok (e, closing :: rest)) (hClosing : closing.token = .symbol .rParen) :
    primary nested (located :: tokens) = .ok (e, rest) := by
  rw [primary]
  simp only [peek, h, advance_symbol h, hInner, expect_cons hClosing, bind, Except.bind, pure,
    Except.pure]

theorem primary_array (h : located.token = .symbol .lBracket) {elements : List Expr}
    (hItems : items nested .rBracket .bracketAfterItems tokens = .ok (elements, rest)) :
    primary nested (located :: tokens) = .ok (.array elements, rest) := by
  rw [primary]
  simp only [peek, h, advance_symbol h, hItems, bind, Except.bind, pure, Except.pure]

theorem primary_object (h : located.token = .symbol .lBrace) {fields : List (String × Expr)}
    (hItems : items (entry nested) .rBrace .braceAfterEntries tokens = .ok (fields, rest)) :
    primary nested (located :: tokens) = .ok (.object fields, rest) := by
  rw [primary]
  simp only [peek, h, advance_symbol h, hItems, bind, Except.bind, pure, Except.pure]

end Primary

section Suffixes

variable {nested : Nat → Parser Expr} {target : Expr}

theorem suffixes_end (h : Stops 0 (peek rest)) :
    suffixes nested budget target rest = .ok (target, rest) := by
  cases budget with
  | zero => rw [suffixes, startsSuffix_of_stops h]; rfl
  | succ budget => rw [suffixes, startsSuffix_of_stops h]; rfl

theorem suffixes_more {longer : Expr} (hStarts : startsSuffix tokens = true)
    (hSuffix : suffix (nested budget) target tokens = .ok (longer, rest)) :
    suffixes nested (budget + 1) target tokens = suffixes nested budget longer rest := by
  rw [suffixes, if_pos hStarts, hSuffix]
  rfl

theorem suffixes_call (h : located.token = .symbol .lParen) {callee : String} {args : List Expr}
    (hItems : items (nested budget) .rParen .parenAfterArguments tokens = .ok (args, rest)) :
    suffixes nested (budget + 1) (.name callee) (located :: tokens) =
      suffixes nested budget (.call callee args) rest := by
  apply suffixes_more (by simp [startsSuffix, peek, h])
  simp only [suffix, peek, h, advance_symbol h, if_true, hItems, bind, Except.bind, pure,
    Except.pure]

theorem suffixes_member (h : located.token = .symbol .dot) {name : Located} {property : String}
    (hName : name.token = .ident property) :
    suffixes nested (budget + 1) target (located :: name :: rest) =
      suffixes nested budget (.member target property) rest := by
  apply suffixes_more (by simp [startsSuffix, peek, h])
  have hBehind : advance (name :: rest) = rest := advance_cons hName (by simp)
  rw [suffix.eq_def]
  simp only [peek, h, advance_symbol h, hName, hBehind, reduceCtorEq, if_false, if_true,
    Token.symbol.injEq]

theorem suffixes_index (h : located.token = .symbol .lBracket) {position : Expr}
    (hIndex : nested budget tokens = .ok (position, closing :: rest))
    (hClosing : closing.token = .symbol .rBracket) :
    suffixes nested (budget + 1) target (located :: tokens) =
      suffixes nested budget (.index target position) rest := by
  apply suffixes_more (by simp [startsSuffix, peek, h])
  rw [suffix.eq_def]
  simp only [peek, h, advance_symbol h, reduceCtorEq, if_false, Token.symbol.injEq, hIndex,
    expect_cons hClosing, bind, Except.bind, pure, Except.pure]

end Suffixes

section Chain

variable {operand : Nat → Parser Expr} {operators : Operators} {left right : Expr}

theorem chain_end (h : operator? operators rest = none) :
    chain operators operand budget left rest = .ok (left, rest) := by
  cases budget with
  | zero => rw [chain, h]
  | succ budget => rw [chain, h]

theorem chain_more {sign : Symbol} {join : Expr → Expr → Expr} (h : located.token = .symbol sign)
    (hJoin : operators sign = some join) (hOperand : operand budget tokens = .ok (right, rest)) :
    chain operators operand (budget + 1) left (located :: tokens) =
      chain operators operand budget (join left right) rest := by
  have hOperator : operator? operators (located :: tokens) = some join := by
    simp only [operator?, peek, h, hJoin]
  rw [chain, hOperator]
  simp only [advance_symbol h, hOperand, bind, Except.bind]

theorem level_eq (hOperand : operand budget tokens = .ok (left, rest)) :
    level operand operators budget tokens = chain operators operand budget left rest := by
  rw [level, hOperand]
  rfl

theorem expression_single (hCondition : levelOf operand 6 budget tokens = .ok (e, rest))
    (hStops : Stops 7 (peek rest)) :
    expression operand (budget + 1) tokens = .ok (e, rest) := by
  have hNone : eat? .question rest = none :=
    eat?_none fun h => Nat.lt_irrefl 7 (hStops 7 (by rw [h]; rfl))
  change (operation operand budget tokens >>= _) = _
  rw [show operation operand budget tokens = .ok (e, rest) from hCondition]
  simp only [bind, Except.bind, hNone]
  rfl

theorem expression_conditional {question colon : Located} {middle last : List Located}
    {condition yes no : Expr}
    (hCondition : levelOf operand 6 budget tokens = .ok (condition, question :: middle))
    (hQuestion : question.token = .symbol .question)
    (hYes : expression operand budget middle = .ok (yes, colon :: last))
    (hColon : colon.token = .symbol .colon) (hNo : expression operand budget last = .ok (no, rest)) :
    expression operand (budget + 1) tokens = .ok (.conditional condition yes no, rest) := by
  change (operation operand budget tokens >>= _) = _
  rw [show operation operand budget tokens = .ok (condition, question :: middle) from hCondition]
  simp only [eat?_cons hQuestion, hYes, expect_cons hColon, hNo, bind, Except.bind, pure,
    Except.pure]

end Chain

theorem operand_postfixed (h : unaryOp? (peek tokens) = none) {target : Expr}
    (hPrimary : primary (expression operand budget) tokens = .ok (target, rest)) :
    operand budget tokens = suffixes (expression operand) budget target rest := by
  rw [operand_eq, operandStep, h]
  simp only [postfixed, hPrimary, bind, Except.bind]

theorem operand_unary {op : UnaryOp} (h : unaryOp? located.token = some op)
    (hOperand : operand budget tokens = .ok (e, rest)) :
    operand (budget + 1) (located :: tokens) = .ok (.unary op e, rest) := by
  have hNotEof : located.token ≠ .eof := fun hEof => by rw [hEof] at h; cases h
  rw [operand_eq, operandStep]
  simp only [peek, h, advance_cons rfl hNotEof, hOperand, bind, Except.bind, pure, Except.pure]

end Productions

end Parser

namespace Grammar

open ParamTree.Parser

/-- The parser of the category reads exactly the tokens, in front of others that stop it. -/
def Accepted (category : Category) (budget : Nat) (xs : List Token) (e : Expr) : Prop :=
  ∀ ⦃used rest⦄, kinds used = xs →
    match category with
    | .expression => Stops 7 (peek rest) →
      expression operand budget (used ++ rest) = .ok (e, rest)
    | .level count => Stops count (peek rest) →
      levelOf operand count budget (used ++ rest) = .ok (e, rest)
    | .chain count left => ∀ operators, levels[count]? = some operators →
      Stops (count + 1) (peek rest) →
      chain operators (levelOf operand count) budget left (used ++ rest) = .ok (e, rest)
    | .primary => primary (expression operand budget) (used ++ rest) = .ok (e, rest)
    | .suffixes target => Stops 0 (peek rest) →
      suffixes (expression operand) budget target (used ++ rest) = .ok (e, rest)
    | .items closing => ∀ elements what, e = .array elements → closes closing = true →
      items (expression operand budget) closing what (used ++ rest) = .ok (elements, rest)
    | .entries => ∀ fields what, e = .object fields →
      items (entry (expression operand budget)) .rBrace what (used ++ rest) = .ok (fields, rest)

section Productions

variable {budget count : Nat} {xs ys zs : List Token} {closing : Symbol} {e left right : Expr}

theorem accepted_conditional {condition yes no : Expr}
    (hCondition : Accepted (.level 6) budget xs condition)
    (hYes : Accepted .expression budget ys yes) (hNo : Accepted .expression budget zs no) :
    Accepted .expression (budget + 1) (xs ++ .symbol .question :: ys ++ .symbol .colon :: zs)
      (.conditional condition yes no) := by
  intro used rest hUsed hStops
  rw [List.append_assoc] at hUsed
  obtain ⟨front, others, rfl, hFront, hUsed⟩ := exists_append_of_kinds hUsed
  obtain ⟨question, others, rfl, hQuestion, hUsed⟩ := exists_cons_of_kinds hUsed
  obtain ⟨middle, others, rfl, hMiddle, hUsed⟩ := exists_append_of_kinds hUsed
  obtain ⟨colon, last, rfl, hColon, hLast⟩ := exists_cons_of_kinds hUsed
  have hStopsQuestion : Stops 6 question.token := by
    rw [hQuestion]
    rintro rank ⟨⟩
    decide
  have hStopsColon : Stops 7 colon.token := hColon ▸ stops_of_rank_none rfl 7
  rw [List.append_assoc, List.cons_append, List.append_assoc, List.cons_append]
  exact expression_conditional (hCondition hFront hStopsQuestion) hQuestion
    (hYes hMiddle hStopsColon) hColon (hNo hLast hStops)

theorem accepted_level (hCount : count < 6) (hDerives : Derives (.chain count left) budget ys e)
    (hLeft : Accepted (.level count) budget xs left)
    (hChain : Accepted (.chain count left) budget ys e) :
    Accepted (.level (count + 1)) budget (xs ++ ys) e := by
  intro used rest hUsed hStops
  obtain ⟨front, back, rfl, hFront, hBack⟩ := exists_append_of_kinds hUsed
  have hOperators := List.getElem?_eq_getElem (l := levels) hCount
  have hBetween := stops_of_chain hDerives hBack hStops
  rw [List.append_assoc, levelOf_succ hOperators, level_eq (hLeft hFront hBetween)]
  exact hChain hBack _ hOperators hStops

theorem accepted_chainMore {sign : Symbol} {join : Expr → Expr → Expr}
    (hJoins : Joins count sign join) (hDerives : Derives (.chain count (join left right)) budget ys e)
    (hRight : Accepted (.level count) budget xs right)
    (hChain : Accepted (.chain count (join left right)) budget ys e) :
    Accepted (.chain count left) (budget + 1) (.symbol sign :: xs ++ ys) e := by
  intro used rest hUsed operators hOperators hStops
  obtain ⟨located, others, rfl, hSign, hUsed⟩ := exists_cons_of_kinds hUsed
  obtain ⟨front, back, rfl, hFront, hBack⟩ := exists_append_of_kinds hUsed
  obtain ⟨table, hTable, hJoin⟩ := hJoins
  obtain rfl := Option.some.inj (hTable.symm.trans hOperators)
  have hBetween := stops_of_chain hDerives hBack hStops
  rw [List.cons_append, List.append_assoc, chain_more hSign hJoin (hRight hFront hBetween)]
  exact hChain hBack _ hOperators hStops

theorem accepted_index {target position : Expr} (hPosition : Accepted .expression budget xs position)
    (hSuffixes : Accepted (.suffixes (.index target position)) budget ys e) :
    Accepted (.suffixes target) (budget + 1) (.symbol .lBracket :: xs ++ .symbol .rBracket :: ys)
      e := by
  intro used rest hUsed hStops
  rw [List.cons_append] at hUsed
  obtain ⟨located, others, rfl, hBracket, hUsed⟩ := exists_cons_of_kinds hUsed
  obtain ⟨front, others, rfl, hFront, hUsed⟩ := exists_append_of_kinds hUsed
  obtain ⟨closing, back, rfl, hClosing, hBack⟩ := exists_cons_of_kinds hUsed
  have hStopsClosing : Stops 7 closing.token := hClosing ▸ stops_of_rank_none rfl 7
  rw [List.cons_append, List.append_assoc, List.cons_append,
    suffixes_index hBracket (hPosition hFront hStopsClosing) hClosing]
  exact hSuffixes hBack hStops

theorem accepted_group (h : Accepted .expression budget xs e) :
    Accepted .primary budget (.symbol .lParen :: xs ++ [.symbol .rParen]) e := by
  intro used rest hUsed
  obtain ⟨located, others, rfl, hParen, hUsed⟩ := exists_cons_of_kinds hUsed
  obtain ⟨front, others, rfl, hFront, hUsed⟩ := exists_append_of_kinds hUsed
  obtain ⟨closing, rfl, hClosing⟩ := exists_singleton_of_kinds hUsed
  have hStops : Stops 7 closing.token := hClosing ▸ stops_of_rank_none rfl 7
  change primary _ (located :: (front ++ [closing] ++ rest)) = _
  rw [List.append_assoc]
  exact primary_group hParen (h hFront hStops) hClosing

theorem accepted_itemsLast (hDerives : Derives .expression budget xs e)
    (h : Accepted .expression budget xs e) :
    Accepted (.items closing) budget (xs ++ [.symbol closing]) (.array [e]) := by
  intro used rest hUsed elements what hElements hCloses
  cases hElements
  obtain ⟨front, others, rfl, rfl, hOthers⟩ := exists_append_of_kinds hUsed
  obtain ⟨located, rfl, hClosing⟩ := exists_singleton_of_kinds hOthers
  have hStops : Stops 7 located.token := hClosing ▸ stops_of_closes hCloses 7
  rw [List.append_assoc]
  exact items_last (eat?_of_derives hDerives hCloses _) (h rfl hStops) hClosing hCloses

theorem accepted_itemsMore {elements : List Expr} (hDerives : Derives .expression budget xs e)
    (h : Accepted .expression budget xs e)
    (hItems : Accepted (.items closing) budget ys (.array elements)) :
    Accepted (.items closing) budget (xs ++ .symbol .comma :: ys) (.array (e :: elements)) := by
  intro used rest hUsed elements what hElements hCloses
  cases hElements
  obtain ⟨front, others, rfl, rfl, hOthers⟩ := exists_append_of_kinds hUsed
  obtain ⟨comma, back, rfl, hComma, hBack⟩ := exists_cons_of_kinds hOthers
  have hStops : Stops 7 comma.token := hComma ▸ stops_of_rank_none rfl 7
  have hLength : (back ++ rest).length < (front ++ comma :: (back ++ rest)).length := by
    simp only [List.length_append, List.length_cons]
    omega
  rw [List.append_assoc, List.cons_append]
  exact items_more (eat?_of_derives hDerives hCloses _) (h rfl hStops) hComma hLength
    (hItems hBack _ _ rfl hCloses)

theorem accepted_entriesLast {token : Token} {key : String} (hKey : key? token = some key)
    (h : Accepted .expression budget xs e) :
    Accepted .entries budget (token :: .symbol .colon :: xs ++ [.symbol .rBrace])
      (.object [(key, e)]) := by
  intro used rest hUsed fields what hFields
  cases hFields
  obtain ⟨located, others, rfl, hToken, hUsed⟩ := exists_cons_of_kinds hUsed
  obtain ⟨colon, others, rfl, hColon, hUsed⟩ := exists_cons_of_kinds hUsed
  obtain ⟨front, others, rfl, hFront, hUsed⟩ := exists_append_of_kinds hUsed
  obtain ⟨closing, rfl, hClosing⟩ := exists_singleton_of_kinds hUsed
  have hStops : Stops 7 (peek (closing :: rest)) := by
    change Stops 7 closing.token
    rw [hClosing]
    exact stops_of_closes rfl 7
  have hEntry := entry_eq (hToken ▸ hKey) hColon (h hFront hStops)
  have hEat := eat?_of_key hKey hToken (colon :: (front ++ closing :: rest))
  change items _ _ _ (located :: colon :: (front ++ [closing] ++ rest)) = _
  rw [List.append_assoc]
  exact items_last hEat hEntry hClosing rfl

theorem accepted_entriesMore {token : Token} {key : String} {fields : List (String × Expr)}
    (hKey : key? token = some key) (h : Accepted .expression budget xs e)
    (hEntries : Accepted .entries budget ys (.object fields)) :
    Accepted .entries budget (token :: .symbol .colon :: xs ++ .symbol .comma :: ys)
      (.object ((key, e) :: fields)) := by
  intro used rest hUsed fields what hFields
  cases hFields
  obtain ⟨located, others, rfl, hToken, hUsed⟩ := exists_cons_of_kinds hUsed
  obtain ⟨colon, others, rfl, hColon, hUsed⟩ := exists_cons_of_kinds hUsed
  obtain ⟨front, others, rfl, hFront, hUsed⟩ := exists_append_of_kinds hUsed
  obtain ⟨comma, back, rfl, hComma, hBack⟩ := exists_cons_of_kinds hUsed
  have hStops : Stops 7 (peek (comma :: (back ++ rest))) := by
    change Stops 7 comma.token
    rw [hComma]
    exact stops_of_rank_none rfl 7
  have hEntry := entry_eq (hToken ▸ hKey) hColon (h hFront hStops)
  have hEat := eat?_of_key hKey hToken (colon :: (front ++ comma :: (back ++ rest)))
  have hLength : (back ++ rest).length <
      (located :: colon :: (front ++ comma :: (back ++ rest))).length := by
    simp only [List.length_append, List.length_cons]
    omega
  change items _ _ _ (located :: colon :: (front ++ comma :: back ++ rest)) = _
  rw [List.append_assoc]
  exact items_more hEat hEntry hComma hLength (hEntries hBack _ _ rfl)

end Productions

theorem Derives.accepted {category : Category} {budget : Nat} {xs : List Token} {e : Expr}
    (h : Derives category budget xs e) : Accepted category budget xs e := by
  induction h with
  | single _ ih =>
    intro used rest hUsed hStops
    exact expression_single (ih hUsed (hStops.mono (by decide))) hStops
  | conditional _ _ _ ihCondition ihYes ihNo => exact accepted_conditional ihCondition ihYes ihNo
  | level hCount _ hChain ihLeft ihChain => exact accepted_level hCount hChain ihLeft ihChain
  | chainEnd =>
    intro used rest hUsed operators hOperators hStops
    obtain rfl := List.map_eq_nil_iff.mp hUsed
    exact chain_end (operator?_of_stops hOperators hStops (Nat.lt_succ_self _))
  | chainMore hJoins _ hChain ihRight ihChain =>
    exact accepted_chainMore hJoins hChain ihRight ihChain
  | unary hOp _ ih =>
    intro used rest hUsed hStops
    obtain ⟨located, others, rfl, rfl, hOthers⟩ := exists_cons_of_kinds hUsed
    exact operand_unary hOp (ih hOthers hStops)
  | postfixed hPrimary _ ihPrimary ihSuffixes =>
    intro used rest hUsed hStops
    obtain ⟨front, back, rfl, hFront, hBack⟩ := exists_append_of_kinds hUsed
    have hUnary := unaryOp?_of_primary hPrimary hFront (back ++ rest)
    rw [List.append_assoc]
    exact (operand_postfixed hUnary (ihPrimary hFront)).trans (ihSuffixes hBack hStops)
  | suffixesEnd =>
    intro used rest hUsed hStops
    obtain rfl := List.map_eq_nil_iff.mp hUsed
    exact suffixes_end hStops
  | call _ _ ihArgs ihSuffixes =>
    intro used rest hUsed hStops
    obtain ⟨located, others, rfl, hParen, hUsed⟩ := exists_cons_of_kinds hUsed
    obtain ⟨front, back, rfl, hFront, hBack⟩ := exists_append_of_kinds hUsed
    rw [List.cons_append, List.append_assoc,
      suffixes_call hParen (ihArgs hFront _ _ rfl rfl)]
    exact ihSuffixes hBack hStops
  | member _ ih =>
    intro used rest hUsed hStops
    obtain ⟨located, others, rfl, hDot, hUsed⟩ := exists_cons_of_kinds hUsed
    obtain ⟨name, others, rfl, hName, hUsed⟩ := exists_cons_of_kinds hUsed
    rw [List.cons_append, List.cons_append, suffixes_member hDot hName]
    exact ih hUsed hStops
  | index _ _ ihPosition ihSuffixes => exact accepted_index ihPosition ihSuffixes
  | number =>
    intro used rest hUsed
    obtain ⟨located, rfl, hToken⟩ := exists_singleton_of_kinds hUsed
    exact primary_number hToken
  | string =>
    intro used rest hUsed
    obtain ⟨located, rfl, hToken⟩ := exists_singleton_of_kinds hUsed
    exact primary_string hToken
  | ident =>
    intro used rest hUsed
    obtain ⟨located, rfl, hToken⟩ := exists_singleton_of_kinds hUsed
    exact primary_ident hToken
  | group _ ih => exact accepted_group ih
  | array _ ih =>
    intro used rest hUsed
    obtain ⟨located, others, rfl, hBracket, hUsed⟩ := exists_cons_of_kinds hUsed
    exact primary_array hBracket (ih hUsed _ _ rfl rfl)
  | object _ ih =>
    intro used rest hUsed
    obtain ⟨located, others, rfl, hBrace, hUsed⟩ := exists_cons_of_kinds hUsed
    exact primary_object hBrace (ih hUsed _ _ rfl)
  | itemsEnd =>
    intro used rest hUsed elements what hElements _
    cases hElements
    obtain ⟨located, rfl, hClosing⟩ := exists_singleton_of_kinds hUsed
    exact items_end hClosing
  | itemsLast hItem ih => exact accepted_itemsLast hItem ih
  | itemsMore hItem _ ihItem ihItems => exact accepted_itemsMore hItem ihItem ihItems
  | entriesEnd =>
    intro used rest hUsed fields what hFields
    cases hFields
    obtain ⟨located, rfl, hClosing⟩ := exists_singleton_of_kinds hUsed
    exact items_end hClosing
  | entriesLast hKey _ ih => exact accepted_entriesLast hKey ih
  | entriesMore hKey _ _ ih ihEntries => exact accepted_entriesMore hKey ih ihEntries

end Grammar

open Grammar ParamTree.Parser

/-- Wherever they stand in a text, the tokens of a derivation and the end are accepted. -/
theorem Grammar.ofTokens_of_derives {used rest : List Located} {e : Expr}
    (h : Derives .expression Expr.maxDepth (kinds used) e) (hEof : peek rest = .eof) :
    Expr.ofTokens (used ++ rest) = .ok e := by
  have hStops : Stops 7 (peek rest) := hEof ▸ stops_of_rank_none rfl 7
  change (expression operand Expr.maxDepth (used ++ rest) >>= _) = _
  rw [h.accepted rfl hStops]
  exact if_pos hEof

end ParamTree
