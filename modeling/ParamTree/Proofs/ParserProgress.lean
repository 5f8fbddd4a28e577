import ParamTree.Proofs.BudgetAgreement

/-!
# Progress of the parser

Whatever tokens with the end behind them and whatever state a method of the parser begins with, it
gives a result if it has enough fuel, and one that is not an error has taken tokens, none of them the
end, and has put the count of nested levels back. Main statement: `Method.progresses`.
-/

namespace ParamTree

open Grammar

namespace Counting

/-- The methods for the nonterminals of the grammar. Level zero are the operands with their signs,
and six levels of operators are above it. -/
inductive Method : Type → Type where
  | expression : Method Expr
  | conditional : Method Expr
  | level (count : Fin 7) : Method Expr
  | postfixed : Method Expr
  | primary : Method Expr
  | list (closing : Symbol) (what : Expected) : Method (List Expr)
  | object : Method (List (String × Expr))

def Method.run (tokens : List Located) {α : Type} : Method α → Nat → Counted α
  | .expression, fuel => Counting.expression tokens fuel
  | .conditional, fuel => Counting.conditional tokens fuel
  | .level count, fuel => Counting.level tokens fuel count
  | .postfixed, fuel => Counting.postfixed tokens fuel
  | .primary, fuel => Counting.primary tokens fuel
  | .list closing what, fuel => Counting.list tokens fuel closing what
  | .object, fuel => Counting.object tokens fuel

theorem Method.below_of_le {tokens : List Located} {α : Type} (method : Method α) {fuel more : Nat}
    (h : fuel ≤ more) : Below (method.run tokens fuel) (method.run tokens more) := by
  have hExtends : Extends tokens fuel more := extends_of_le h
  cases method with
  | expression => exact hExtends.expression
  | conditional => exact hExtends.conditional
  | level count => exact hExtends.level count
  | postfixed => exact hExtends.postfixed
  | primary => exact hExtends.primary
  | list closing what => exact hExtends.list closing what
  | object => exact hExtends.object

/-- The count of nested levels is as before, and tokens have been taken, none of them the end. -/
structure Restores (tokens : List Located) (before after : State) : Prop where
  depth_eq : after.depth = before.depth
  advanced : before.pos < after.pos
  inside : after.pos < tokens.length
  taken : ∀ located ∈ (tokens.take after.pos).drop before.pos, located.token ≠ .eof

/-- In every state the method gives a result with some fuel, and with whatever fuel it restores the
count if the result is no error. -/
def Progresses (tokens : List Located) {α : Type} (m : Nat → Counted α) : Prop :=
  ∀ before, (∃ fuel result, m fuel before = some result) ∧
    ∀ fuel a after, m fuel before = some (.ok (a, after)) → Restores tokens before after

section

variable {tokens : List Located} {α : Type}

theorem restores_of_taken (hEnd : EndsInEof tokens) {start pos depth : Nat} {used : List Located}
    (hPos : pos ≤ max start (tokens.length - 1))
    (hUsed : restAt tokens start = used ++ restAt tokens pos) (hSome : kinds used ≠ [])
    (hEof : .eof ∉ kinds used) : Restores tokens ⟨start, depth⟩ ⟨pos, depth⟩ := by
  obtain ⟨located, others, rfl⟩ := List.exists_cons_of_ne_nil (fun hNil => hSome (congrArg kinds hNil))
  have hPeek : Parser.peek (restAt tokens start) ≠ .eof := by
    rw [hUsed]
    exact fun hEq => hEof (hEq ▸ List.mem_cons_self)
  have hStart := hEnd.lt_of_peek hPeek
  have hLast : pos ≤ tokens.length - 1 := by omega
  rw [restAt, restAt, Nat.min_eq_left (Nat.le_of_lt hStart), Nat.min_eq_left hLast] at hUsed
  have hLength : tokens.length - start = (located :: others).length + (tokens.length - pos) := by
    rw [← List.length_drop, hUsed, List.length_append, List.length_drop]
  have hCount : pos - start = (located :: others).length := by
    rw [List.length_cons] at hLength ⊢
    omega
  have hTaken : (tokens.take pos).drop start = located :: others := by
    rw [List.drop_take, hUsed, hCount, List.take_left]
  rw [List.length_cons] at hCount
  have hAdvanced : start < pos := by omega
  have hInside : pos < tokens.length := by omega
  refine ⟨rfl, hAdvanced, hInside, ?_⟩
  change ∀ other ∈ (tokens.take pos).drop start, other.token ≠ .eof
  rw [hTaken]
  intro other hOther hEq
  exact hEof (hEq ▸ List.mem_map_of_mem hOther)

theorem progresses_of_agrees (hEnd : EndsInEof tokens) {m : Nat → Counted α} {parser : Nat → Parser α}
    {read : Nat → List Token → α → Prop}
    (hMore : ∀ {fuel more}, fuel ≤ more → Below (m fuel) (m more))
    (hAgrees : ∃ enough, ∀ fuel ≥ enough, ∀ start depth,
      Agrees tokens start depth (m fuel ⟨start, depth⟩) (parser depth (restAt tokens start)))
    (hReads : ∀ depth, Parser.Reads (parser depth) (read depth))
    (hTaken : ∀ {depth xs a}, read depth xs a → xs ≠ [] ∧ .eof ∉ xs) : Progresses tokens m := by
  obtain ⟨enough, h⟩ := hAgrees
  rintro ⟨start, depth⟩
  refine ⟨⟨enough, ?_⟩, ?_⟩
  · have hEnough := h enough (Nat.le_refl _) start depth
    generalize m enough ⟨start, depth⟩ = result, parser depth _ = parsed at hEnough
    cases hEnough with
    | ok | error => exact ⟨_, rfl⟩
  · intro fuel a after hRun
    -- the result is the same with more fuel, and with enough of it the parser has it as well
    have hEnough := h (max fuel enough) (Nat.le_max_right _ _) start depth
    rw [hMore (Nat.le_max_left fuel enough) _ _ hRun] at hEnough
    obtain ⟨pos, hPos, rfl, hParsed⟩ := hEnough.of_ok
    obtain ⟨used, hUsed, hRead⟩ := hReads depth hParsed
    obtain ⟨hSome, hEof⟩ := hTaken hRead
    exact restores_of_taken hEnd hPos hUsed hSome hEof

end

end Counting

namespace Grammar

/-- The category is that of phrases that stand by themselves. -/
def Category.isPhrase : Category → Bool
  | .chain _ _ | .suffixes _ => false
  | _ => true

theorem Derives.taken {category : Category} {budget : Nat} {xs : List Token} {e : Expr}
    (h : Derives category budget xs e) (hPhrase : category.isPhrase = true) :
    xs ≠ [] ∧ .eof ∉ xs := by
  refine ⟨?_, h.eof_notMem⟩
  cases category with
  | expression | level | primary =>
    obtain ⟨token, others, rfl, -⟩ := h.headOf
    exact List.cons_ne_nil token others
  | chain | suffixes => cases hPhrase
  | items | entries => cases h <;> simp

end Grammar

namespace Counting

open ParamTree.Parser

theorem reads_nested (budget : Nat) :
    Reads (Parser.expression operand budget) (Derives .expression budget) :=
  reads_expression fun b _ => reads_operand b

section

variable {tokens : List Located} (hEnd : EndsInEof tokens)
include hEnd

theorem agrees_level {count : Nat} (hCount : count ≤ 6) : ∃ enough, ∀ fuel ≥ enough, ∀ pos depth,
    Agrees tokens pos depth (level tokens fuel count ⟨pos, depth⟩)
      (levelOf operand count (Expr.maxDepth - depth) (restAt tokens pos)) := by
  obtain ⟨enough, h⟩ := simulatesBelow_unary hEnd (Expr.maxDepth + 1)
  have hLevel := simulatesBelow_levelOf hEnd h hCount
  exact ⟨_, fun fuel hFuel pos depth => hLevel depth (by omega) fuel hFuel pos⟩

theorem Method.progresses {α : Type} (method : Method α) : Progresses tokens (method.run tokens) := by
  obtain ⟨enough, h⟩ := agrees_expression hEnd
  cases method with
  | expression =>
    apply progresses_of_agrees hEnd Method.expression.below_of_le
      ⟨enough, fun fuel hFuel pos depth => h fuel hFuel depth pos⟩ fun depth => reads_nested _
    exact fun hDerives => hDerives.taken rfl
  | conditional =>
    obtain ⟨levels, hLevel⟩ := agrees_level hEnd (Nat.le_refl 6)
    have hAgrees : ∀ fuel ≥ max enough levels + 1, ∀ pos depth,
        Agrees tokens pos depth (Counting.conditional tokens fuel ⟨pos, depth⟩)
          (Parser.conditional (levelOf operand 6 (Expr.maxDepth - depth))
            (Parser.expression operand (Expr.maxDepth - depth)) (restAt tokens pos)) := by
      intro fuel hFuel pos depth
      apply agrees_conditional hEnd _ _ hFuel
      · exact fun more hMore place =>
          hLevel more (Nat.le_trans (Nat.le_max_right _ _) hMore) place depth
      · exact fun more hMore place => h more (Nat.le_trans (Nat.le_max_left _ _) hMore) depth place
    -- without the entered level it is a nested expression of one level more
    have hReads (depth : Nat) : Reads
        (Parser.conditional (levelOf operand 6 (Expr.maxDepth - depth))
          (Parser.expression operand (Expr.maxDepth - depth)))
        (Derives .expression (Expr.maxDepth - depth + 1)) :=
      reads_nested (Expr.maxDepth - depth + 1)
    apply progresses_of_agrees hEnd Method.conditional.below_of_le ⟨_, hAgrees⟩ hReads
    exact fun hDerives => hDerives.taken rfl
  | level count =>
    have hCount : count.val ≤ 6 := Nat.le_of_lt_succ count.isLt
    apply progresses_of_agrees hEnd (Method.level count).below_of_le (agrees_level hEnd hCount)
      fun depth => reads_levelOf (fun b _ => reads_operand b) count.val hCount _ (Nat.le_refl _)
    exact fun hDerives => hDerives.taken rfl
  | postfixed =>
    have hBelow (depth : Nat) : SimulatesBelow tokens (Expr.maxDepth - depth + 1) enough
        (Counting.expression tokens) (Parser.expression operand) :=
      fun inner _ fuel hFuel => h fuel hFuel inner
    apply progresses_of_agrees hEnd Method.postfixed.below_of_le
      ⟨_, fun fuel hFuel pos depth => agrees_postfixed hEnd reads_nested (hBelow depth) hFuel pos⟩
      fun depth => reads_postfixed fun b _ => reads_nested b
    exact fun hDerives => hDerives.taken rfl
  | primary =>
    apply progresses_of_agrees hEnd Method.primary.below_of_le
      ⟨_, fun fuel hFuel pos depth => agrees_primary hEnd (fun more hMore => h more hMore depth)
        (reads_nested _) hFuel pos⟩
      fun depth => reads_primary (reads_nested _)
    exact fun hDerives => hDerives.taken rfl
  | list closing what =>
    apply progresses_of_agrees hEnd (Method.list closing what).below_of_le
      ⟨_, fun fuel hFuel pos depth => agrees_list hEnd (fun more hMore => h more hMore depth)
        (reads_nested _) hFuel closing what pos⟩
      fun depth => reads_elements (reads_nested _) closing what
    exact fun hDerives => hDerives.taken rfl
  | object =>
    apply progresses_of_agrees hEnd Method.object.below_of_le
      ⟨_, fun fuel hFuel pos depth => agrees_object hEnd (fun more hMore => h more hMore depth)
        (reads_nested _) hFuel pos⟩
      fun depth => reads_fields (reads_nested _) _
    exact fun hDerives => hDerives.taken rfl

end

end Counting

end ParamTree
