import ParamTree.Proofs.Grammar
import ParamTree.Proofs.Nesting

/-!
# What the budget of levels bounds

Main statements: within a budget, the nesting of an expression is at most the budget, and its height
is at most `greatestHeight` of it. Each chain of operators or suffixes, one for each level of
precedence, can use the budget up once more than the phrase in front of it did.
-/

namespace ParamTree.Grammar

open ParamTree.Parser (levels)

theorem nesting_of_joins {number : Nat} {sign : Symbol} {join : Expr → Expr → Expr}
    (h : Joins number sign join) (left right : Expr) :
    (join left right).nesting = max left.nesting (right.nesting + 1) := by
  obtain ⟨op, rfl⟩ | rfl | rfl := kind_of_joins h
  · rfl
  · rfl
  · rfl

theorem height_of_joins {number : Nat} {sign : Symbol} {join : Expr → Expr → Expr}
    (h : Joins number sign join) (left right : Expr) :
    (join left right).height = max left.height right.height + 1 := by
  obtain ⟨op, rfl⟩ | rfl | rfl := kind_of_joins h
  · rfl
  · rfl
  · rfl

theorem kind_of_atom (name : String) :
    (∃ value, Parser.atom name = .literal value) ∨ Parser.atom name = .name name := by
  unfold Parser.atom
  split
  · exact .inl ⟨_, rfl⟩
  split
  · exact .inl ⟨_, rfl⟩
  split
  · exact .inl ⟨_, rfl⟩
  · exact .inr rfl

theorem nesting_atom (name : String) : (Parser.atom name).nesting = 1 := by
  obtain ⟨value, hAtom⟩ | hAtom := kind_of_atom name
  · rw [hAtom, Expr.nesting]
  · rw [hAtom, Expr.nesting]

theorem height_atom (name : String) : (Parser.atom name).height = 1 := by
  obtain ⟨value, hAtom⟩ | hAtom := kind_of_atom name
  · rw [hAtom, Expr.height]
  · rw [hAtom, Expr.height]

theorem pos_of_derives {budget : Nat} {xs : List Token} {e : Expr}
    (h : Derives .expression budget xs e) : 0 < budget := by
  cases h with
  | single | conditional => exact Nat.succ_pos _

def nestingBound (budget : Nat) : Category → Nat
  | .expression => budget
  | .level _ | .primary | .items _ | .entries => budget + 1
  | .chain _ left => max left.nesting (budget + 1)
  | .suffixes target => max target.nesting (budget + 1)

theorem Derives.nesting_le {category : Category} {budget : Nat} {xs : List Token} {e : Expr}
    (h : Derives category budget xs e) : e.nesting ≤ nestingBound budget category := by
  induction h with
  | single _ ih => exact ih
  | conditional _ _ _ ihCondition ihYes ihNo =>
    simp only [nestingBound, Expr.nesting] at *
    omega
  | level _ _ _ ihLeft ihChain =>
    simp only [nestingBound] at *
    omega
  | chainEnd | suffixesEnd => exact Nat.le_max_left _ _
  | chainMore hJoins _ _ ihRight ihChain =>
    simp only [nestingBound, nesting_of_joins hJoins] at *
    omega
  | unary _ _ ih => exact Nat.succ_le_succ ih
  | postfixed _ _ ihPrimary ihSuffixes =>
    simp only [nestingBound] at *
    omega
  | call _ _ ihArgs ihSuffixes =>
    simp only [nestingBound, Expr.nesting] at *
    omega
  | member _ ih =>
    simp only [nestingBound, Expr.nesting] at *
    omega
  | index _ _ ihPosition ihSuffixes =>
    simp only [nestingBound, Expr.nesting] at *
    omega
  | number | string => exact Nat.succ_le_succ (Nat.zero_le _)
  | ident =>
    rw [nesting_atom]
    exact Nat.succ_le_succ (Nat.zero_le _)
  | group _ ih => exact Nat.le_succ_of_le ih
  | array _ ih | object _ ih => exact ih
  | itemsEnd | entriesEnd => exact Nat.succ_le_succ (Nat.zero_le _)
  | itemsLast _ ih | entriesLast _ _ ih =>
    simp only [nestingBound, Expr.nesting, Expr.itemsNesting, Expr.entriesNesting] at *
    omega
  | itemsMore _ _ ihItem ihItems | entriesMore _ _ _ ihItem ihItems =>
    simp only [nestingBound, Expr.nesting, Expr.itemsNesting, Expr.entriesNesting] at *
    omega

/-- The height of the highest expression within a budget. -/
def greatestHeight : Nat → Nat
  | 0 => 0
  | 1 => 1
  | budget + 2 => greatestHeight (budget + 1) + 7 * (budget + 1) + 2

theorem greatestHeight_succ {budget : Nat} (h : 0 < budget) :
    greatestHeight (budget + 1) = greatestHeight budget + 7 * budget + 2 := by
  cases budget with
  | zero => cases h
  | succ budget => rfl

theorem lt_greatestHeight_succ (budget : Nat) :
    greatestHeight budget + 7 * budget < greatestHeight (budget + 1) := by
  cases budget with
  | zero => decide
  | succ budget => exact Nat.lt_succ_of_le (Nat.le_succ _)

def heightBound (budget : Nat) : Category → Nat
  | .expression => greatestHeight budget
  | .level count => greatestHeight budget + 1 + (count + 1) * budget
  | .primary | .items _ | .entries => greatestHeight budget + 1
  | .chain count left => max left.height (greatestHeight budget + 1 + (count + 1) * budget) + budget
  | .suffixes target => max target.height (greatestHeight budget + 1) + budget

theorem Derives.height_le {category : Category} {budget : Nat} {xs : List Token} {e : Expr}
    (h : Derives category budget xs e) : e.height ≤ heightBound budget category := by
  induction h with
  | @single budget _ _ _ ih =>
    have hLt := lt_greatestHeight_succ budget
    simp only [heightBound] at *
    omega
  | @conditional budget _ _ _ _ _ _ _ hYes _ ihCondition ihYes ihNo =>
    have hSucc := greatestHeight_succ (pos_of_derives hYes)
    simp only [heightBound, Expr.height] at *
    omega
  | level _ _ _ ihLeft ihChain =>
    simp only [heightBound, Nat.add_mul] at *
    omega
  | chainEnd | suffixesEnd => simp only [heightBound]; omega
  | @chainMore count budget _ _ _ _ _ _ _ hJoins _ _ ihRight ihChain =>
    have hLt := lt_greatestHeight_succ budget
    simp only [heightBound, height_of_joins hJoins, Nat.mul_add] at *
    omega
  | @unary budget _ _ _ _ _ _ ih =>
    have hLt := lt_greatestHeight_succ budget
    simp only [heightBound, Expr.height] at *
    omega
  | postfixed _ _ ihPrimary ihSuffixes =>
    simp only [heightBound] at *
    omega
  | @call budget _ _ _ _ _ _ _ ihArgs ihSuffixes =>
    have hLt := lt_greatestHeight_succ budget
    simp only [heightBound, Expr.height] at *
    omega
  | @member budget _ _ _ _ _ ih =>
    have hLt := lt_greatestHeight_succ budget
    simp only [heightBound, Expr.height] at *
    omega
  | @index budget _ _ _ _ _ _ _ ihPosition ihSuffixes =>
    have hLt := lt_greatestHeight_succ budget
    simp only [heightBound, Expr.height] at *
    omega
  | number | string => exact Nat.succ_le_succ (Nat.zero_le _)
  | ident =>
    rw [height_atom]
    exact Nat.succ_le_succ (Nat.zero_le _)
  | group _ ih => exact Nat.le_succ_of_le ih
  | array _ ih | object _ ih => exact ih
  | itemsEnd | entriesEnd => exact Nat.succ_le_succ (Nat.zero_le _)
  | itemsLast _ ih | entriesLast _ _ ih =>
    simp only [heightBound, Expr.height, Expr.itemsHeight, Expr.entriesHeight] at *
    omega
  | itemsMore _ _ ihItem ihItems | entriesMore _ _ _ ihItem ihItems =>
    simp only [heightBound, Expr.height, Expr.itemsHeight, Expr.entriesHeight] at *
    omega

end ParamTree.Grammar
