import ParamTree.Proofs.Grammar

/-!
# What a parser reads

A parser that succeeds takes tokens off the front, and the grammar derives the expression from what
was taken, within the budget of the parser. Main statement: `derives_of_ofTokens`.
-/

namespace ParamTree

def kinds (tokens : List Located) : List Token :=
  tokens.map Located.token

@[simp] theorem kinds_nil : kinds [] = [] := rfl

@[simp] theorem kinds_cons (located : Located) (tokens : List Located) :
    kinds (located :: tokens) = located.token :: kinds tokens := rfl

@[simp] theorem kinds_append (tokens others : List Located) :
    kinds (tokens ++ others) = kinds tokens ++ kinds others :=
  List.map_append

theorem Except.eq_ok_of_toOption {ε α : Type} {result : Except ε α} {a : α}
    (h : result.toOption = some a) : result = .ok a := by
  cases result with
  | error => cases h
  | ok => exact congrArg Except.ok (Option.some.inj h)

theorem Except.exists_eq_ok {ε α : Type} {result : Except ε α}
    (h : result.toOption.isSome = true) : ∃ a, result = .ok a := by
  obtain ⟨a, ha⟩ := Option.isSome_iff_exists.mp h
  exact ⟨a, eq_ok_of_toOption ha⟩

theorem Except.exists_of_bind_eq_ok {ε α β : Type} {result : Except ε α} {f : α → Except ε β}
    {b : β} (h : result >>= f = .ok b) : ∃ a, result = .ok a ∧ f a = .ok b := by
  cases result with
  | error => cases h
  | ok a => exact ⟨a, rfl, h⟩

namespace Parser

open Grammar

theorem exists_of_peek {tokens : List Located} (h : peek tokens ≠ .eof) :
    ∃ located rest, tokens = located :: rest ∧ advance tokens = rest ∧
      located.token = peek tokens := by
  cases tokens with
  | nil => exact (h rfl).elim
  | cons located rest => exact ⟨located, rest, rfl, if_neg h, rfl⟩

theorem exists_of_eat? {sign : Symbol} {tokens rest : List Located}
    (h : eat? sign tokens = some rest) :
    ∃ located, tokens = located :: rest ∧ located.token = .symbol sign := by
  cases tokens with
  | nil => cases h
  | cons located others =>
    rw [eat?] at h
    split at h
    · rename_i hToken
      cases h
      exact ⟨located, rfl, hToken⟩
    · cases h

theorem exists_of_expect {sign : Symbol} {what : Expected} {tokens rest : List Located}
    (h : expect sign what tokens = .ok rest) :
    ∃ located, tokens = located :: rest ∧ located.token = .symbol sign := by
  rw [expect] at h
  split at h
  · rename_i hEat
    cases h
    exact exists_of_eat? hEat
  · cases h

/-- What is taken off the front of the tokens is as `read` says. -/
def Reads {α : Type} (p : Parser α) (read : List Token → α → Prop) : Prop :=
  ∀ ⦃tokens a rest⦄, p tokens = .ok (a, rest) →
    ∃ used, tokens = used ++ rest ∧ read (kinds used) a

theorem reads_tooDeep {α : Type} (read : List Token → α → Prop) : Reads tooDeep read :=
  fun _ _ _ h => nomatch h

/-- Items follow any relation that is closed under the three ways in which a list goes on. -/
theorem reads_items {α : Type} {item : Parser α} {closing : Symbol} {what : Expected}
    {one : List Token → α → Prop} {many : List Token → List α → Prop} (hItem : Reads item one)
    (hEnd : many [.symbol closing] [])
    (hLast : ∀ {xs a}, one xs a → many (xs ++ [.symbol closing]) [a])
    (hMore : ∀ {xs ys a others}, one xs a → many ys others →
      many (xs ++ .symbol .comma :: ys) (a :: others)) :
    Reads (items item closing what) many := by
  intro tokens found rest h
  induction hLength : tokens.length using Nat.strongRecOn generalizing tokens found rest with
  | ind length ih =>
    rw [items] at h
    split at h
    · rename_i hEat
      cases h
      obtain ⟨located, rfl, hToken⟩ := exists_of_eat? hEat
      exact ⟨[located], rfl, by rw [kinds_cons, hToken]; exact hEnd⟩
    · obtain ⟨⟨first, behind⟩, hFirst, h⟩ := Except.exists_of_bind_eq_ok h
      obtain ⟨used, rfl, hOne⟩ := hItem hFirst
      dsimp only at h
      split at h
      · obtain ⟨after, hExpect, h⟩ := Except.exists_of_bind_eq_ok h
        cases h
        obtain ⟨located, rfl, hToken⟩ := exists_of_expect hExpect
        refine ⟨used ++ [located], by simp, ?_⟩
        rw [kinds_append, kinds_cons, hToken]
        exact hLast hOne
      · rename_i afterComma hEat
        split at h
        · rename_i hShorter
          obtain ⟨⟨others, after⟩, hOthers, h⟩ := Except.exists_of_bind_eq_ok h
          cases h
          obtain ⟨comma, rfl, hComma⟩ := exists_of_eat? hEat
          obtain ⟨more, rfl, hMany⟩ := ih _ (hLength ▸ hShorter) hOthers rfl
          refine ⟨used ++ comma :: more, by simp, ?_⟩
          rw [kinds_append, kinds_cons, hComma]
          exact hMore hOne hMany
        · cases h

theorem reads_entry {value : Parser Expr} {read : List Token → Expr → Prop}
    (h : Reads value read) :
    Reads (entry value) fun xs field => ∃ token ys, xs = token :: .symbol .colon :: ys ∧
      key? token = some field.1 ∧ read ys field.2 := by
  intro tokens field rest hEntry
  rw [entry] at hEntry
  split at hEntry
  · cases hEntry
  · rename_i key hKey
    obtain ⟨behind, hExpect, hEntry⟩ := Except.exists_of_bind_eq_ok hEntry
    obtain ⟨⟨e, after⟩, hValue, hEntry⟩ := Except.exists_of_bind_eq_ok hEntry
    cases hEntry
    have hNotEof : peek tokens ≠ .eof := fun hEof => by rw [hEof] at hKey; cases hKey
    obtain ⟨located, others, rfl, hAdvance, hToken⟩ := exists_of_peek hNotEof
    rw [hAdvance] at hExpect
    obtain ⟨colon, rfl, hColon⟩ := exists_of_expect hExpect
    obtain ⟨used, rfl, hRead⟩ := h hValue
    refine ⟨located :: colon :: used, rfl, located.token, kinds used, ?_, ?_, hRead⟩
    · rw [kinds_cons, kinds_cons, hColon]
    · rw [hToken]
      exact hKey

section Nested

variable {nested : Parser Expr} {budget : Nat} (h : Reads nested (Derives .expression budget))
include h

theorem reads_elements (closing : Symbol) (what : Expected) :
    Reads (items nested closing what) fun xs elements =>
      Derives (.items closing) budget xs (.array elements) :=
  reads_items h .itemsEnd .itemsLast .itemsMore

theorem reads_fields (what : Expected) :
    Reads (items (entry nested) .rBrace what) fun xs fields =>
      Derives .entries budget xs (.object fields) := by
  apply reads_items (reads_entry h)
  · exact .entriesEnd
  · rintro xs ⟨key, e⟩ ⟨token, ys, rfl, hKey, hValue⟩
    exact .entriesLast hKey hValue
  · rintro xs zs ⟨key, e⟩ others ⟨token, ys, rfl, hKey, hValue⟩ hOthers
    exact .entriesMore hKey hValue hOthers

theorem reads_primary : Reads (primary nested) (Derives .primary budget) := by
  intro tokens e rest hPrimary
  rw [primary] at hPrimary
  split at hPrimary
  case h_7 => cases hPrimary
  all_goals
    rename_i hPeek
    have hNotEof : peek tokens ≠ .eof := by simp [hPeek]
    obtain ⟨located, others, rfl, hAdvance, hToken⟩ := exists_of_peek hNotEof
    rw [hPeek] at hToken
    rw [hAdvance] at hPrimary
  case h_1 => cases hPrimary; exact ⟨[located], rfl, by rw [kinds_cons, hToken]; exact .number⟩
  case h_2 => cases hPrimary; exact ⟨[located], rfl, by rw [kinds_cons, hToken]; exact .string⟩
  case h_3 => cases hPrimary; exact ⟨[located], rfl, by rw [kinds_cons, hToken]; exact .ident⟩
  case h_4 =>
    obtain ⟨⟨inner, behind⟩, hInner, hPrimary⟩ := Except.exists_of_bind_eq_ok hPrimary
    obtain ⟨after, hExpect, hPrimary⟩ := Except.exists_of_bind_eq_ok hPrimary
    cases hPrimary
    obtain ⟨used, rfl, hDerives⟩ := h hInner
    obtain ⟨closing, rfl, hClosing⟩ := exists_of_expect hExpect
    refine ⟨located :: used ++ [closing], by simp, ?_⟩
    rw [kinds_append, kinds_cons, kinds_cons, hToken, hClosing]
    exact .group hDerives
  case h_5 =>
    obtain ⟨⟨elements, behind⟩, hItems, hPrimary⟩ := Except.exists_of_bind_eq_ok hPrimary
    cases hPrimary
    obtain ⟨used, rfl, hDerives⟩ := reads_elements h _ _ hItems
    refine ⟨located :: used, rfl, ?_⟩
    rw [kinds_cons, hToken]
    exact .array hDerives
  case h_6 =>
    obtain ⟨⟨fields, behind⟩, hItems, hPrimary⟩ := Except.exists_of_bind_eq_ok hPrimary
    cases hPrimary
    obtain ⟨used, rfl, hDerives⟩ := reads_fields h _ hItems
    refine ⟨located :: used, rfl, ?_⟩
    rw [kinds_cons, hToken]
    exact .object hDerives

theorem reads_suffix {target : Expr} {tokens rest : List Located} {e : Expr}
    (hStarts : startsSuffix tokens = true) (hSuffix : suffix nested target tokens = .ok (e, rest)) :
    ∃ used, tokens = used ++ rest ∧ ∀ {ys result}, Derives (.suffixes e) budget ys result →
      Derives (.suffixes target) (budget + 1) (kinds used ++ ys) result := by
  have hNotEof : peek tokens ≠ .eof := by
    intro hEof
    simp [startsSuffix, hEof] at hStarts
  obtain ⟨located, others, rfl, hAdvance, hToken⟩ := exists_of_peek hNotEof
  rw [suffix.eq_def, hAdvance] at hSuffix
  dsimp only at hSuffix
  split at hSuffix
  · rename_i hCall
    rw [hCall] at hToken
    split at hSuffix
    · obtain ⟨⟨args, behind⟩, hItems, hSuffix⟩ := Except.exists_of_bind_eq_ok hSuffix
      cases hSuffix
      obtain ⟨used, rfl, hDerives⟩ := reads_elements h _ _ hItems
      refine ⟨located :: used, rfl, fun hRest => ?_⟩
      rw [kinds_cons, hToken]
      exact .call hDerives hRest
    · cases hSuffix
  · split at hSuffix
    · rename_i hDot
      rw [hDot] at hToken
      split at hSuffix
      · rename_i property hProperty
        have hNotEnd : peek others ≠ .eof := by rw [hProperty]; exact nofun
        obtain ⟨name, after, rfl, hBehind, hName⟩ := exists_of_peek hNotEnd
        cases hSuffix
        refine ⟨[located, name], by rw [hBehind]; rfl, fun hRest => ?_⟩
        rw [kinds_cons, kinds_cons, hToken, hName, hProperty]
        exact .member hRest
      · cases hSuffix
    · rename_i hCall hDot
      obtain ⟨⟨position, behind⟩, hIndex, hSuffix⟩ := Except.exists_of_bind_eq_ok hSuffix
      obtain ⟨after, hExpect, hSuffix⟩ := Except.exists_of_bind_eq_ok hSuffix
      cases hSuffix
      have hBracket : peek (located :: others) = .symbol .lBracket := by
        simpa [startsSuffix, hCall, hDot] using hStarts
      rw [hBracket] at hToken
      obtain ⟨used, rfl, hDerives⟩ := h hIndex
      obtain ⟨closing, rfl, hClosing⟩ := exists_of_expect hExpect
      refine ⟨located :: used ++ [closing], by simp, fun hRest => ?_⟩
      rw [kinds_append, kinds_cons, kinds_cons, hToken, hClosing, List.append_assoc]
      exact .index hDerives hRest

end Nested

theorem reads_suffixes {nested : Nat → Parser Expr} {budget : Nat}
    (h : ∀ b < budget, Reads (nested b) (Derives .expression b)) (target : Expr) :
    Reads (suffixes nested budget target) (Derives (.suffixes target) budget) := by
  induction budget generalizing target with
  | zero =>
    intro tokens e rest hRest
    rw [suffixes] at hRest
    split at hRest
    · cases hRest
    · cases hRest
      exact ⟨[], rfl, .suffixesEnd⟩
  | succ budget ih =>
    intro tokens e rest hRest
    rw [suffixes] at hRest
    split at hRest
    · rename_i hStarts
      obtain ⟨⟨longer, behind⟩, hSuffix, hBehind⟩ := Except.exists_of_bind_eq_ok hRest
      obtain ⟨used, rfl, hLonger⟩ := reads_suffix (h budget (Nat.lt_succ_self _)) hStarts hSuffix
      obtain ⟨more, rfl, hMore⟩ := ih (fun b hb => h b (Nat.lt_succ_of_lt hb)) longer hBehind
      refine ⟨used ++ more, by simp, ?_⟩
      rw [kinds_append]
      exact hLonger hMore
    · cases hRest
      exact ⟨[], rfl, .suffixesEnd⟩

theorem reads_postfixed {nested : Nat → Parser Expr} {budget : Nat}
    (h : ∀ b ≤ budget, Reads (nested b) (Derives .expression b)) :
    Reads (postfixed nested budget) (Derives (.level 0) budget) := by
  intro tokens e rest hPostfixed
  obtain ⟨⟨target, behind⟩, hPrimary, hRest⟩ := Except.exists_of_bind_eq_ok hPostfixed
  obtain ⟨used, rfl, hTarget⟩ := reads_primary (h budget (Nat.le_refl _)) hPrimary
  obtain ⟨more, rfl, hMore⟩ := reads_suffixes (fun b hb => h b (Nat.le_of_lt hb)) target hRest
  refine ⟨used ++ more, by simp, ?_⟩
  rw [kinds_append]
  exact .postfixed hTarget hMore

section Level

variable {operand : Nat → Parser Expr} {count : Nat} {operators : Operators}
  (hOperators : levels[count]? = some operators)
include hOperators

theorem reads_chain {budget : Nat} (h : ∀ b < budget, Reads (operand b) (Derives (.level count) b))
    (left : Expr) :
    Reads (chain operators operand budget left) (Derives (.chain count left) budget) := by
  induction budget generalizing left with
  | zero =>
    intro tokens e rest hChain
    rw [chain] at hChain
    split at hChain
    · cases hChain
      exact ⟨[], rfl, .chainEnd⟩
    · cases hChain
  | succ budget ih =>
    intro tokens e rest hChain
    rw [chain] at hChain
    split at hChain
    · cases hChain
      exact ⟨[], rfl, .chainEnd⟩
    · rename_i join hJoin
      obtain ⟨⟨right, behind⟩, hRight, hBehind⟩ := Except.exists_of_bind_eq_ok hChain
      rw [operator?] at hJoin
      split at hJoin
      · rename_i sign hPeek
        have hNotEof : peek tokens ≠ .eof := by simp [hPeek]
        obtain ⟨located, others, rfl, hAdvance, hToken⟩ := exists_of_peek hNotEof
        rw [hAdvance] at hRight
        rw [hPeek] at hToken
        obtain ⟨used, rfl, hOperand⟩ := h budget (Nat.lt_succ_self _) hRight
        obtain ⟨more, rfl, hMore⟩ := ih (fun b hb => h b (Nat.lt_succ_of_lt hb)) _ hBehind
        refine ⟨located :: used ++ more, by simp, ?_⟩
        rw [kinds_append, kinds_cons, hToken]
        exact .chainMore ⟨operators, hOperators, hJoin⟩ hOperand hMore
      · cases hJoin

theorem reads_level {budget : Nat} (h : ∀ b ≤ budget, Reads (operand b) (Derives (.level count) b)) :
    Reads (level operand operators budget) (Derives (.level (count + 1)) budget) := by
  intro tokens e rest hLevel
  obtain ⟨⟨left, behind⟩, hLeft, hChain⟩ := Except.exists_of_bind_eq_ok hLevel
  obtain ⟨used, rfl, hOperand⟩ := h budget (Nat.le_refl _) hLeft
  obtain ⟨more, rfl, hMore⟩ :=
    reads_chain hOperators (fun b hb => h b (Nat.le_of_lt hb)) left hChain
  refine ⟨used ++ more, by simp, ?_⟩
  rw [kinds_append]
  exact .level (List.getElem?_eq_some_iff.mp hOperators).1 hOperand hMore

end Level

theorem reads_levelOf {operand : Nat → Parser Expr} {budget : Nat}
    (h : ∀ b ≤ budget, Reads (operand b) (Derives (.level 0) b)) (count : Nat) (hCount : count ≤ 6) :
    ∀ b ≤ budget, Reads (levelOf operand count b) (Derives (.level count) b) := by
  apply levelOf_induction
    (motive := fun count nested => ∀ b ≤ budget, Reads (nested b) (Derives (.level count) b))
    h _ hCount
  intro count operators nested hOperators hNested b hb
  exact reads_level hOperators fun c hc => hNested c (Nat.le_trans hc hb)

theorem reads_expression {operand : Nat → Parser Expr} {budget : Nat}
    (h : ∀ b < budget, Reads (operand b) (Derives (.level 0) b)) :
    Reads (expression operand budget) (Derives .expression budget) := by
  induction budget with
  | zero => exact reads_tooDeep _
  | succ budget ih =>
    have hBranch := ih fun b hb => h b (Nat.lt_succ_of_lt hb)
    have hCondition := reads_levelOf (fun b hb => h b (Nat.lt_succ_of_le hb)) 6 (Nat.le_refl 6)
      budget (Nat.le_refl _)
    intro tokens e rest hExpression
    obtain ⟨⟨condition, behind⟩, hRead, hTail⟩ := Except.exists_of_bind_eq_ok hExpression
    obtain ⟨used, rfl, hDerives⟩ := hCondition hRead
    dsimp only at hTail
    split at hTail
    · cases hTail
      exact ⟨used, rfl, .single hDerives⟩
    · rename_i afterQuestion hEat
      obtain ⟨question, rfl, hQuestion⟩ := exists_of_eat? hEat
      obtain ⟨⟨yes, behindYes⟩, hYes, hTail⟩ := Except.exists_of_bind_eq_ok hTail
      obtain ⟨afterColon, hExpect, hTail⟩ := Except.exists_of_bind_eq_ok hTail
      obtain ⟨⟨no, behindNo⟩, hNo, hTail⟩ := Except.exists_of_bind_eq_ok hTail
      cases hTail
      obtain ⟨usedYes, rfl, hDerivesYes⟩ := hBranch hYes
      obtain ⟨colon, rfl, hColon⟩ := exists_of_expect hExpect
      obtain ⟨usedNo, rfl, hDerivesNo⟩ := hBranch hNo
      refine ⟨used ++ question :: usedYes ++ colon :: usedNo, by simp, ?_⟩
      rw [kinds_append, kinds_append, kinds_cons, kinds_cons, hQuestion, hColon]
      exact .conditional hDerives hDerivesYes hDerivesNo

theorem reads_operand (budget : Nat) : Reads (operand budget) (Derives (.level 0) budget) := by
  induction budget using Nat.strongRecOn with
  | ind budget ih =>
    have hNested : ∀ b ≤ budget, Reads (expression operand b) (Derives .expression b) :=
      fun b hb => reads_expression fun c hc => ih c (Nat.lt_of_lt_of_le hc hb)
    intro tokens e rest hOperand
    rw [operand_eq, operandStep] at hOperand
    split at hOperand
    · exact reads_postfixed hNested hOperand
    · rename_i op hOp
      cases budget with
      | zero => cases hOperand
      | succ budget =>
        obtain ⟨⟨inner, behind⟩, hInner, hOperand⟩ := Except.exists_of_bind_eq_ok hOperand
        cases hOperand
        have hNotEof : peek tokens ≠ .eof := fun hEof => by rw [hEof] at hOp; cases hOp
        obtain ⟨located, others, rfl, hAdvance, hToken⟩ := exists_of_peek hNotEof
        rw [hAdvance] at hInner
        rw [← hToken] at hOp
        obtain ⟨used, rfl, hDerives⟩ := ih budget (Nat.lt_succ_self _) hInner
        exact ⟨located :: used, rfl, .unary hOp hDerives⟩

end Parser

open Grammar ParamTree.Parser

theorem Grammar.derives_of_ofTokens {tokens : List Located} {e : Expr}
    (h : Expr.ofTokens tokens = .ok e) :
    ∃ used rest, tokens = used ++ rest ∧ peek rest = .eof ∧
      Derives .expression Expr.maxDepth (kinds used) e := by
  obtain ⟨⟨found, rest⟩, hExpression, h⟩ := Except.exists_of_bind_eq_ok h
  dsimp only at h
  split at h
  · rename_i hEof
    cases h
    obtain ⟨used, hUsed, hDerives⟩ := reads_expression (fun b _ => reads_operand b) hExpression
    exact ⟨used, rest, hUsed, hEof, hDerives⟩
  · cases h

end ParamTree
