import ParamTree.Expr.Basic

/-!
# Height and nesting of expressions

The height of a tree counts every step down. Its nesting leaves out the steps into first operands:
the left operand of a binary operator, the target of a member or an index, the condition of a
conditional. Main statement: `height_le_iff`, a height is within a limit if and only if the nesting
is and the first operands fit below the nodes they stand under.
-/

namespace ParamTree.Expr

mutual

def height : Expr → Nat
  | .literal _ | .name _ => 1
  | .array items => itemsHeight items + 1
  | .object entries => entriesHeight entries + 1
  | .call _ args => itemsHeight args + 1
  | .member target _ => target.height + 1
  | .index target position => max target.height position.height + 1
  | .unary _ operand => operand.height + 1
  | .binary _ left right | .and left right | .or left right => max left.height right.height + 1
  | .conditional condition yes no => max condition.height (max yes.height no.height) + 1

def itemsHeight : List Expr → Nat
  | [] => 0
  | item :: items => max item.height (itemsHeight items)

def entriesHeight : List (String × Expr) → Nat
  | [] => 0
  | (_, value) :: entries => max value.height (entriesHeight entries)

end

mutual

def nesting : Expr → Nat
  | .literal _ | .name _ => 1
  | .array items => itemsNesting items + 1
  | .object entries => entriesNesting entries + 1
  | .call _ args => itemsNesting args + 1
  | .member target _ => target.nesting
  | .index target position => max target.nesting (position.nesting + 1)
  | .unary _ operand => operand.nesting + 1
  | .binary _ left right | .and left right | .or left right =>
    max left.nesting (right.nesting + 1)
  | .conditional condition yes no => max condition.nesting (max yes.nesting no.nesting + 1)

def itemsNesting : List Expr → Nat
  | [] => 0
  | item :: items => max item.nesting (itemsNesting items)

def entriesNesting : List (String × Expr) → Nat
  | [] => 0
  | (_, value) :: entries => max value.nesting (entriesNesting entries)

end

mutual

/-- A first operand that stands under `d` nodes has at most the height `limit - d`. -/
def FirstOperandsFit (limit : Nat) : Expr → Prop
  | .literal _ | .name _ => True
  | .array items => ItemsFit (limit - 1) items
  | .object entries => EntriesFit (limit - 1) entries
  | .call _ args => ItemsFit (limit - 1) args
  | .member target _ => target.height < limit
  | .index target position => target.height < limit ∧ FirstOperandsFit (limit - 1) position
  | .unary _ operand => FirstOperandsFit (limit - 1) operand
  | .binary _ left right | .and left right | .or left right =>
    left.height < limit ∧ FirstOperandsFit (limit - 1) right
  | .conditional condition yes no =>
    condition.height < limit ∧ FirstOperandsFit (limit - 1) yes ∧ FirstOperandsFit (limit - 1) no

def ItemsFit (limit : Nat) : List Expr → Prop
  | [] => True
  | item :: items => FirstOperandsFit limit item ∧ ItemsFit limit items

def EntriesFit (limit : Nat) : List (String × Expr) → Prop
  | [] => True
  | (_, value) :: entries => FirstOperandsFit limit value ∧ EntriesFit limit entries

end

mutual

theorem nesting_le_height (e : Expr) : e.nesting ≤ e.height := by
  cases e with
  | literal | name => exact Nat.le_refl 1
  | array items => exact Nat.succ_le_succ (itemsNesting_le_height items)
  | object entries => exact Nat.succ_le_succ (entriesNesting_le_height entries)
  | call callee args => exact Nat.succ_le_succ (itemsNesting_le_height args)
  | member target property => exact Nat.le_succ_of_le (nesting_le_height target)
  | index target position =>
    have hTarget := nesting_le_height target
    have hPosition := nesting_le_height position
    simp only [nesting, height]
    omega
  | unary op operand => exact Nat.succ_le_succ (nesting_le_height operand)
  | binary _ left right | and left right | or left right =>
    have hLeft := nesting_le_height left
    have hRight := nesting_le_height right
    simp only [nesting, height]
    omega
  | conditional condition yes no =>
    have hCondition := nesting_le_height condition
    have hYes := nesting_le_height yes
    have hNo := nesting_le_height no
    simp only [nesting, height]
    omega

theorem itemsNesting_le_height (items : List Expr) : itemsNesting items ≤ itemsHeight items := by
  cases items with
  | nil => exact Nat.le_refl 0
  | cons item items =>
    have hItem := nesting_le_height item
    have hItems := itemsNesting_le_height items
    simp only [itemsNesting, itemsHeight]
    omega

theorem entriesNesting_le_height (entries : List (String × Expr)) :
    entriesNesting entries ≤ entriesHeight entries := by
  match entries with
  | [] => exact Nat.le_refl 0
  | (_, value) :: entries =>
    have hValue := nesting_le_height value
    have hEntries := entriesNesting_le_height entries
    simp only [entriesNesting, entriesHeight]
    omega

end

theorem nesting_pos : ∀ e : Expr, 0 < e.nesting
  | .literal _ | .name _ | .array _ | .object _ | .call _ _ | .unary _ _ => Nat.succ_pos _
  | .member target _ => nesting_pos target
  | .index target _ => Nat.lt_of_lt_of_le (nesting_pos target) (Nat.le_max_left _ _)
  | .binary _ left _ | .and left _ | .or left _ =>
    Nat.lt_of_lt_of_le (nesting_pos left) (Nat.le_max_left _ _)
  | .conditional condition _ _ => Nat.lt_of_lt_of_le (nesting_pos condition) (Nat.le_max_left _ _)

theorem height_pos (e : Expr) : 0 < e.height :=
  Nat.lt_of_lt_of_le e.nesting_pos e.nesting_le_height

theorem node_le_iff {limit first nested height nesting : Nat} {fit : Prop} (hFirst : nested ≤ first)
    (hOthers : height ≤ limit ↔ nesting ≤ limit ∧ fit) :
    max first height + 1 ≤ limit + 1 ↔
      max nested (nesting + 1) ≤ limit + 1 ∧ first < limit + 1 ∧ fit := by
  constructor
  · intro h
    obtain ⟨hNesting, hFit⟩ := hOthers.mp (by omega)
    exact ⟨by omega, by omega, hFit⟩
  · rintro ⟨hNested, hLt, hFit⟩
    have hHeight := hOthers.mpr ⟨by omega, hFit⟩
    omega

mutual

theorem height_le_iff (limit : Nat) (e : Expr) :
    e.height ≤ limit ↔ e.nesting ≤ limit ∧ e.FirstOperandsFit limit := by
  obtain _ | limit := limit
  · have hNesting := e.nesting_pos
    have hHeight := e.height_pos
    omega
  cases e with
  | literal | name => simp [height, nesting, FirstOperandsFit]
  | array items =>
    simpa [height, nesting, FirstOperandsFit] using itemsHeight_le_iff limit items
  | object entries =>
    simpa [height, nesting, FirstOperandsFit] using entriesHeight_le_iff limit entries
  | call callee args =>
    simpa [height, nesting, FirstOperandsFit] using itemsHeight_le_iff limit args
  | member target property =>
    have hTarget := nesting_le_height target
    simp only [height, nesting, FirstOperandsFit]
    omega
  | index target position =>
    exact node_le_iff (nesting_le_height target) (height_le_iff limit position)
  | unary op operand =>
    simpa [height, nesting, FirstOperandsFit] using height_le_iff limit operand
  | binary _ left right | and left right | or left right =>
    exact node_le_iff (nesting_le_height left) (height_le_iff limit right)
  | conditional condition yes no =>
    have hBranches : max yes.height no.height ≤ limit ↔ max yes.nesting no.nesting ≤ limit ∧
        yes.FirstOperandsFit limit ∧ no.FirstOperandsFit limit := by
      rw [Nat.max_le, Nat.max_le, height_le_iff limit yes, height_le_iff limit no, and_and_and_comm]
    exact node_le_iff (nesting_le_height condition) hBranches

theorem itemsHeight_le_iff (limit : Nat) (items : List Expr) :
    itemsHeight items ≤ limit ↔ itemsNesting items ≤ limit ∧ ItemsFit limit items := by
  cases items with
  | nil => simp [itemsHeight, itemsNesting, ItemsFit]
  | cons item items =>
    rw [itemsHeight, itemsNesting, ItemsFit, Nat.max_le, Nat.max_le, height_le_iff limit item,
      itemsHeight_le_iff limit items, and_and_and_comm]

theorem entriesHeight_le_iff (limit : Nat) (entries : List (String × Expr)) :
    entriesHeight entries ≤ limit ↔ entriesNesting entries ≤ limit ∧ EntriesFit limit entries := by
  match entries with
  | [] => simp [entriesHeight, entriesNesting, EntriesFit]
  | (_, value) :: entries =>
    rw [entriesHeight, entriesNesting, EntriesFit, Nat.max_le, Nat.max_le, height_le_iff limit value,
      entriesHeight_le_iff limit entries, and_and_and_comm]

end

end ParamTree.Expr
