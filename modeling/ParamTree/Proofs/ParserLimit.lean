import ParamTree.Proofs.ParserComplete

/-!
# What the limit of nesting does

With a larger budget a parser finds the same result, except where it stopped at the limit of
nesting.
Main statement: `operand_growsBelow`.
-/

namespace ParamTree.Parser

/-- The result is the other one, or the limit of nesting came in between. -/
def Within {α : Type} (result other : Except SyntaxError α) : Prop :=
  result = other ∨ ∃ offset, result = .error ⟨.nestedTooDeeply, offset⟩

namespace Within

variable {α β : Type} {result other : Except SyntaxError α}

theorem refl (result : Except SyntaxError α) : Within result result :=
  .inl rfl

theorem tooDeep (tokens : List Located) (other : Except SyntaxError (α × List Located)) :
    Within (Parser.tooDeep tokens) other :=
  .inr ⟨_, rfl⟩

theorem bind {f g : α → Except SyntaxError β} (h : Within result other)
    (hf : ∀ a, Within (f a) (g a)) : Within (result >>= f) (other >>= g) := by
  obtain rfl | ⟨offset, rfl⟩ := h
  · cases result with
    | error error => exact .refl _
    | ok a => exact hf a
  · exact .inr ⟨offset, rfl⟩

end Within

/-- The parser does what the other one does, up to the limit of nesting. -/
def Approximates {α : Type} (p q : Parser α) : Prop :=
  ∀ tokens, Within (p tokens) (q tokens)

theorem items_approximates {α : Type} {item other : Parser α} (h : Approximates item other)
    (closing : Symbol) (what : Expected) :
    Approximates (items item closing what) (items other closing what) := by
  intro tokens
  induction hLength : tokens.length using Nat.strongRecOn generalizing tokens with
  | ind length ih =>
    rw [items, items]
    split
    · exact .refl _
    · apply (h tokens).bind
      rintro ⟨first, rest⟩
      dsimp only
      split
      · exact .refl _
      · split
        · rename_i hShorter
          exact (ih _ (hLength ▸ hShorter) _ rfl).bind fun _ => .refl _
        · exact .refl _

section Nested

variable {nested other : Parser Expr} (h : Approximates nested other)
include h

theorem entry_approximates : Approximates (entry nested) (entry other) := by
  intro tokens
  rw [entry, entry]
  split
  · exact .refl _
  · apply (Within.refl _).bind
    intro rest
    exact (h rest).bind fun _ => .refl _

theorem primary_approximates : Approximates (primary nested) (primary other) := by
  intro tokens
  rw [primary, primary]
  split
  · exact .refl _
  · exact .refl _
  · exact .refl _
  · exact (h _).bind fun _ => .refl _
  · exact (items_approximates h _ _ _).bind fun _ => .refl _
  · exact (items_approximates (entry_approximates h) _ _ _).bind fun _ => .refl _
  · exact .refl _

theorem suffix_approximates (target : Expr) :
    Approximates (suffix nested target) (suffix other target) := by
  intro tokens
  rw [suffix.eq_def, suffix.eq_def]
  dsimp only
  split
  · split
    · exact (items_approximates h _ _ _).bind fun _ => .refl _
    · exact .refl _
  split
  · exact .refl _
  · exact (h _).bind fun _ => .refl _

end Nested

theorem conditional_approximates {condition branch otherCondition otherBranch : Parser Expr}
    (hCondition : Approximates condition otherCondition)
    (hBranch : Approximates branch otherBranch) :
    Approximates (conditional condition branch) (conditional otherCondition otherBranch) := by
  intro tokens
  apply (hCondition tokens).bind
  rintro ⟨e, rest⟩
  dsimp only
  split
  · exact .refl _
  · apply (hBranch _).bind
    intro yes
    apply (Within.refl _).bind
    intro behind
    exact (hBranch behind).bind fun _ => .refl _

/-- Up to the bound, a larger budget changes nothing but what was cut short. -/
def GrowsBelow {α : Type} (bound : Nat) (nested : Nat → Parser α) : Prop :=
  ∀ small < bound, ∀ large ≥ small, Approximates (nested small) (nested large)

theorem GrowsBelow.mono {α : Type} {nested : Nat → Parser α} {bound other : Nat}
    (h : GrowsBelow bound nested) (hLe : other ≤ bound) : GrowsBelow other nested :=
  fun small hSmall => h small (Nat.lt_of_lt_of_le hSmall hLe)

theorem suffixes_approximates {nested : Nat → Parser Expr} {small large : Nat}
    (h : GrowsBelow small nested) (hLe : small ≤ large) (target : Expr) :
    Approximates (suffixes nested small target) (suffixes nested large target) := by
  induction small generalizing large target with
  | zero =>
    intro tokens
    cases large with
    | zero => exact .refl _
    | succ large =>
      rw [suffixes, suffixes]
      split
      · exact .tooDeep _ _
      · exact .refl _
  | succ small ih =>
    obtain ⟨large, rfl⟩ : ∃ less, large = less + 1 := ⟨large - 1, by omega⟩
    have hLess : small ≤ large := Nat.le_of_succ_le_succ hLe
    intro tokens
    rw [suffixes, suffixes]
    split
    · apply (suffix_approximates (h small (Nat.lt_succ_self _) large hLess) target tokens).bind
      rintro ⟨longer, rest⟩
      exact ih (h.mono (Nat.le_succ _)) hLess longer rest
    · exact .refl _

theorem postfixed_approximates {nested : Nat → Parser Expr} {small large : Nat}
    (h : GrowsBelow (small + 1) nested) (hLe : small ≤ large) :
    Approximates (postfixed nested small) (postfixed nested large) := by
  intro tokens
  apply (primary_approximates (h small (Nat.lt_succ_self _) large hLe) tokens).bind
  rintro ⟨target, rest⟩
  exact suffixes_approximates (h.mono (Nat.le_succ _)) hLe target rest

theorem chain_approximates {operand : Nat → Parser Expr} {small large : Nat}
    (h : GrowsBelow small operand) (hLe : small ≤ large) (operators : Operators) (left : Expr) :
    Approximates (chain operators operand small left) (chain operators operand large left) := by
  induction small generalizing large left with
  | zero =>
    intro tokens
    cases large with
    | zero => exact .refl _
    | succ large =>
      rw [chain, chain]
      split
      · exact .refl _
      · exact .tooDeep _ _
  | succ small ih =>
    obtain ⟨large, rfl⟩ : ∃ less, large = less + 1 := ⟨large - 1, by omega⟩
    have hLess : small ≤ large := Nat.le_of_succ_le_succ hLe
    intro tokens
    rw [chain, chain]
    split
    · exact .refl _
    · apply (h small (Nat.lt_succ_self _) large hLess _).bind
      rintro ⟨right, rest⟩
      exact ih (h.mono (Nat.le_succ _)) hLess _ rest

theorem level_growsBelow {operand : Nat → Parser Expr} {bound : Nat} (h : GrowsBelow bound operand)
    (operators : Operators) : GrowsBelow bound (level operand operators) := by
  intro small hSmall large hLe tokens
  apply (h small hSmall large hLe tokens).bind
  rintro ⟨left, rest⟩
  exact chain_approximates (h.mono (Nat.le_of_lt hSmall)) hLe operators left rest

theorem operation_growsBelow {operand : Nat → Parser Expr} {bound : Nat}
    (h : GrowsBelow bound operand) : GrowsBelow bound (operation operand) := by
  apply levelOf_induction (motive := fun _ => GrowsBelow bound) h _ (Nat.le_refl 6)
  intro _ operators nested _ hNested
  exact level_growsBelow hNested operators

theorem expression_growsBelow {operand : Nat → Parser Expr} {bound : Nat}
    (h : GrowsBelow bound operand) : GrowsBelow (bound + 1) (expression operand) := by
  intro small
  induction small with
  | zero => exact fun _ large _ tokens => .tooDeep tokens _
  | succ small ih =>
    intro hSmall large hLe
    obtain ⟨large, rfl⟩ : ∃ less, large = less + 1 := ⟨large - 1, by omega⟩
    have hLess : small ≤ large := Nat.le_of_succ_le_succ hLe
    exact conditional_approximates
      (operation_growsBelow h small (Nat.lt_of_succ_lt_succ hSmall) large hLess)
      (ih (Nat.lt_of_succ_lt hSmall) large hLess)

theorem operand_growsBelow (bound : Nat) : GrowsBelow bound operand := by
  induction bound with
  | zero => exact nofun
  | succ bound ih =>
    have hNested := expression_growsBelow ih
    intro small hSmall large hLe tokens
    have hPostfixed := postfixed_approximates (hNested.mono hSmall) hLe
    rw [operand_eq small, operand_eq large, operandStep, operandStep]
    split
    · exact hPostfixed tokens
    · cases small with
      | zero => exact .tooDeep _ _
      | succ small =>
        obtain ⟨large, rfl⟩ : ∃ less, large = less + 1 := ⟨large - 1, by omega⟩
        apply (ih small (by omega) large (by omega) _).bind
        exact fun _ => .refl _

end ParamTree.Parser
