import ParamTree.Proofs.NestingBound
import ParamTree.Proofs.Spelling

/-!
# The heights of accepted expressions

Main statements: `height_le_maxDepth_iff_firstOperandsFit`, which says when an accepted expression
keeps to the limit of nested levels and how far it can go beyond, and `exists_height_eq`, by which
some text goes as far.
-/

namespace ParamTree

open Grammar Lexer

/-- The text spells the tokens in front of any other text. -/
def Lexer.Fronts (text : List Char) (tokens : List Token) : Prop :=
  ∀ ⦃rest others⦄, Spells rest others → Spells (text ++ rest) (tokens ++ others)

section Fronts

variable {text other : List Char} {tokens others : List Token}

theorem fronts_append (h : Fronts text tokens) (hOther : Fronts other others) :
    Fronts (text ++ other) (tokens ++ others) := by
  intro rest behind hRest
  rw [List.append_assoc, List.append_assoc]
  exact h (hOther hRest)

theorem fronts_replicate (h : Fronts text tokens) (count : Nat) :
    Fronts (List.replicate count text).flatten (List.replicate count tokens).flatten := by
  induction count with
  | zero =>
    intro rest behind hRest
    exact hRest
  | succ count ih => exact fronts_append h ih

theorem spells_of_fronts (h : Fronts text tokens) : Spells text tokens := by
  have hEmpty : Spells [] [] := .blanks rfl
  have hSpells := h hEmpty
  rw [List.append_nil, List.append_nil] at hSpells
  exact hSpells

end Fronts

def oneToken : Token := .number (.ofNat 1)

def Expr.one : Expr := .literal (.number (.ofNat 1))

theorem readToken_one (rest : List Char) :
    readToken '1' (' ' :: rest) = .ok (oneToken, ' ' :: rest) := by
  have hNumeral : Number.ofNumeral? ['1'] = some (.ofNat 1) := by decide +kernel
  have hSpan : numeralSpan (' ' :: rest) = ([], ' ' :: rest) := rfl
  have hDigit : readToken '1' (' ' :: rest) = readNumber '1' (' ' :: rest) := by
    simp [readToken, simpleSymbol?]
  simp only [hDigit, readNumber, hSpan, hNumeral, oneToken]

theorem spells_one {rest : List Char} {others : List Token} (h : Spells rest others) :
    Spells ('1' :: ' ' :: rest) (oneToken :: others) :=
  .token rfl (readToken_one rest) (h.blank rfl)

theorem fronts_one : Fronts ['1', ' '] [oneToken] := by
  intro rest others h
  exact spells_one h

theorem derives_one (budget : Nat) {count : Nat} (hCount : count ≤ 6) :
    Derives (.level count) budget [oneToken] .one := by
  have hOperand : Derives (.level 0) budget [oneToken] .one := .postfixed .number .suffixesEnd
  have hMore : 0 + count ≤ 6 := by omega
  have hLevel := derives_level_add hOperand hMore
  rwa [Nat.zero_add] at hLevel

/-- There is an operator of each level that `1` can stand behind. -/
theorem exists_operation {number : Nat} (h : number < 6) :
    ∃ text sign join, Joins number sign join ∧ Fronts text [.symbol sign, oneToken] := by
  match number, h with
  | 0, _ =>
    exact ⟨['*', '1', ' '], .star, _, ⟨_, rfl, rfl⟩, fun _ _ h => .token rfl rfl (spells_one h)⟩
  | 1, _ =>
    exact ⟨['+', '1', ' '], .plus, _, ⟨_, rfl, rfl⟩, fun _ _ h => .token rfl rfl (spells_one h)⟩
  | 2, _ =>
    exact ⟨['<', '1', ' '], .lt, _, ⟨_, rfl, rfl⟩, fun _ _ h => .token rfl rfl (spells_one h)⟩
  | 3, _ =>
    exact ⟨['=', '=', '1', ' '], .eqEq, _, ⟨_, rfl, rfl⟩,
      fun _ _ h => .token rfl rfl (spells_one h)⟩
  | 4, _ =>
    exact ⟨['&', '&', '1', ' '], .andAnd, _, ⟨_, rfl, rfl⟩,
      fun _ _ h => .token rfl rfl (spells_one h)⟩
  | 5, _ =>
    exact ⟨['|', '|', '1', ' '], .orOr, _, ⟨_, rfl, rfl⟩,
      fun _ _ h => .token rfl rfl (spells_one h)⟩

theorem exists_chain {number : Nat} {sign : Symbol} {join : Expr → Expr → Expr}
    (h : Joins number sign join) (hNumber : number < 6) (budget : Nat) (left : Expr) :
    ∃ e, Derives (.chain number left) budget
        (List.replicate budget [.symbol sign, oneToken]).flatten e ∧
      e.height = left.height + budget := by
  induction budget generalizing left with
  | zero => exact ⟨left, .chainEnd, rfl⟩
  | succ budget ih =>
    obtain ⟨e, hDerives, hHeight⟩ := ih (join left .one)
    refine ⟨e, .chainMore h (derives_one budget (Nat.le_of_lt hNumber)) hDerives, ?_⟩
    have hLeft := left.height_pos
    rw [hHeight, height_of_joins h, show Expr.one.height = 1 from rfl]
    omega

theorem exists_members (budget : Nat) (target : Expr) :
    ∃ e, Derives (.suffixes target) budget
        (List.replicate budget [.symbol .dot, .ident "a"]).flatten e ∧
      e.height = target.height + budget := by
  induction budget generalizing target with
  | zero => exact ⟨target, .suffixesEnd, rfl⟩
  | succ budget ih =>
    obtain ⟨e, hDerives, hHeight⟩ := ih (.member target "a")
    refine ⟨e, .member hDerives, ?_⟩
    rw [hHeight, Expr.height]
    omega

/-- A text in front of others that a category derives within a budget, and the height of what it
derives. -/
def Reaches (category : Category) (budget height : Nat) : Prop :=
  ∃ text tokens e, Fronts text tokens ∧ Derives category budget tokens e ∧ e.height = height

theorem reaches_operand {budget height : Nat} (h : Reaches .expression budget height) :
    Reaches (.level 0) budget (height + 1 + budget) := by
  obtain ⟨text, tokens, e, hFronts, hDerives, rfl⟩ := h
  obtain ⟨tall, hTall, hHeight⟩ := exists_members budget (.array [e])
  have hOpening : Fronts ['['] [.symbol .lBracket] := fun _ _ h => .token rfl rfl h
  have hClosing : Fronts [']'] [.symbol .rBracket] := fun _ _ h => .token rfl rfl h
  have hMember : Fronts ['.', 'a', ' '] [.symbol .dot, .ident "a"] :=
    fun _ _ h => .token rfl rfl (.token rfl rfl (h.blank rfl))
  refine ⟨_, _, tall, fronts_append
    (fronts_append hOpening (fronts_append hFronts hClosing)) (fronts_replicate hMember budget),
    .postfixed (.array (.itemsLast hDerives)) hTall, ?_⟩
  rw [hHeight, Expr.height, Expr.itemsHeight, Expr.itemsHeight]
  omega

theorem reaches_level {budget height : Nat} (h : Reaches (.level 0) budget height) {count : Nat}
    (hCount : count ≤ 6) : Reaches (.level count) budget (height + count * budget) := by
  induction count with
  | zero => rwa [Nat.zero_mul]
  | succ count ih =>
    obtain ⟨text, tokens, e, hFronts, hDerives, hHeight⟩ := ih (Nat.le_of_succ_le hCount)
    obtain ⟨other, sign, join, hJoins, hOther⟩ := exists_operation hCount
    obtain ⟨tall, hTall, hTallHeight⟩ := exists_chain hJoins hCount budget e
    refine ⟨_, _, tall, fronts_append hFronts (fronts_replicate hOther budget),
      .level hCount hDerives hTall, ?_⟩
    rw [hTallHeight, hHeight, Nat.succ_mul, Nat.add_assoc]

theorem reaches_expression (budget : Nat) :
    Reaches .expression (budget + 1) (greatestHeight (budget + 1)) := by
  induction budget with
  | zero => exact ⟨_, _, .one, fronts_one, .single (derives_one 0 (Nat.le_refl 6)), rfl⟩
  | succ budget ih =>
    obtain ⟨text, tokens, e, hFronts, hDerives, hHeight⟩ :=
      reaches_level (reaches_operand ih) (Nat.le_refl 6)
    have hYes : Fronts ['?', '1', ' '] [.symbol .question, oneToken] :=
      fun _ _ h => .token rfl rfl (spells_one h)
    have hNo : Fronts [':', '1', ' '] [.symbol .colon, oneToken] :=
      fun _ _ h => .token rfl rfl (spells_one h)
    have hOne : Derives .expression (budget + 1) [oneToken] .one :=
      .single (derives_one budget (Nat.le_refl 6))
    refine ⟨_, _, .conditional e .one .one, fronts_append (fronts_append hFronts hYes) hNo,
      .conditional hDerives hOne hOne, ?_⟩
    have hPos : 0 < budget + 1 := Nat.succ_pos budget
    rw [greatestHeight_succ hPos, Expr.height, hHeight, show Expr.one.height = 1 from rfl]
    omega

theorem greatestHeight_maxDepth : greatestHeight Expr.maxDepth = 57151 := by
  decide +kernel

/-- An accepted expression keeps to the limit if and only if its first operands do. All else of it
does in any case, and a first operand can go beyond only so far. -/
theorem Expr.height_le_maxDepth_iff_firstOperandsFit (text : String) (e : Expr)
    (h : Expr.ofText text = .ok e) :
    (e.height ≤ Expr.maxDepth ↔ e.FirstOperandsFit Expr.maxDepth) ∧
      e.nesting ≤ Expr.maxDepth ∧ e.height ≤ 57151 := by
  obtain ⟨tokens, -, hDerives⟩ := (Expr.ofText_eq_ok_iff text e).mp h
  have hNesting : e.nesting ≤ Expr.maxDepth := hDerives.nesting_le
  have hHeight : e.height ≤ greatestHeight Expr.maxDepth := hDerives.height_le
  rw [greatestHeight_maxDepth] at hHeight
  constructor
  · rw [Expr.height_le_iff]
    exact and_iff_right hNesting
  · exact ⟨hNesting, hHeight⟩

/-- A condition and factors before others are first operands, and low enough. -/
theorem Expr.firstOperandsFit_conditional_product :
    let factors : Expr := .binary (.arith .mul) (.binary (.arith .mul) (.name "b") .one) .one
    let e : Expr := .conditional
      (.binary (.order .lt) (.binary (.arith .mul) (.member (.name "a") "b") .one) .one)
      (.name "a") factors
    Expr.ofText "a.b*1<1?a:b*1*1" = .ok e ∧ e.height = 5 ∧
    e.FirstOperandsFit Expr.maxDepth ∧ e.nesting ≤ Expr.maxDepth := by
  intro factors e
  have hTokens : Token.ofText "a.b*1<1?a:b*1*1" = .ok [⟨.ident "a", 0⟩, ⟨.symbol .dot, 1⟩,
      ⟨.ident "b", 2⟩, ⟨.symbol .star, 3⟩, ⟨oneToken, 4⟩, ⟨.symbol .lt, 5⟩, ⟨oneToken, 6⟩,
      ⟨.symbol .question, 7⟩, ⟨.ident "a", 8⟩, ⟨.symbol .colon, 9⟩, ⟨.ident "b", 10⟩,
      ⟨.symbol .star, 11⟩, ⟨oneToken, 12⟩, ⟨.symbol .star, 13⟩, ⟨oneToken, 14⟩, ⟨.eof, 15⟩] := by
    apply Except.eq_ok_of_toOption
    decide +kernel
  have hAccepted : Expr.ofText "a.b*1<1?a:b*1*1" = .ok e :=
    congrArg (· >>= Expr.ofTokens) hTokens
  have hHeight : e.height = 5 := by decide
  obtain ⟨hFit, hNesting, -⟩ := Expr.height_le_maxDepth_iff_firstOperandsFit _ e hAccepted
  exact ⟨hAccepted, hHeight, hFit.mp (by rw [hHeight]; decide), hNesting⟩

theorem Expr.exists_height_eq :
    ∃ text e, Expr.ofText text = .ok e ∧ e.height = 57151 := by
  obtain ⟨text, tokens, e, hFronts, hDerives, hHeight⟩ := reaches_expression 127
  refine ⟨String.ofList text, e, ?_, hHeight.trans greatestHeight_maxDepth⟩
  rw [Expr.ofText_eq_ok_iff, String.toList_ofList]
  exact ⟨tokens, spells_of_fronts hFronts, hDerives⟩

/-- As many factors as the limit allows, and a term behind them. -/
theorem Expr.height_of_sum_behind_product :
    ∃ e, Expr.ofText (String.ofList
        (['1', ' '] ++ (List.replicate 127 ['*', '1', ' ']).flatten ++ ['+', '1', ' '])) = .ok e ∧
      e.height = Expr.maxDepth + 1 := by
  have hStar : Joins 0 .star (.binary (.arith .mul)) := ⟨_, rfl, rfl⟩
  have hPlus : Joins 1 .plus (.binary (.arith .add)) := ⟨_, rfl, rfl⟩
  have hFactor : Fronts ['*', '1', ' '] [.symbol .star, oneToken] :=
    fun _ _ h => .token rfl rfl (spells_one h)
  have hTerm : Fronts ['+', '1', ' '] [.symbol .plus, oneToken] :=
    fun _ _ h => .token rfl rfl (spells_one h)
  obtain ⟨product, hProduct, hHeight⟩ := exists_chain hStar (by decide) 127 .one
  have hFactors := Derives.level (by decide) (derives_one 127 (by decide)) hProduct
  have hSum := Derives.level (by decide) hFactors
    (.chainMore hPlus (derives_one 126 (by decide)) .chainEnd)
  refine ⟨.binary (.arith .add) product .one, ?_, ?_⟩
  · rw [Expr.ofText_eq_ok_iff, String.toList_ofList]
    exact ⟨_, spells_of_fronts
      (fronts_append (fronts_append fronts_one (fronts_replicate hFactor 127)) hTerm),
      .single (derives_level_add hSum (show 2 + 4 ≤ 6 by decide))⟩
  · rw [Expr.height, hHeight]
    decide

end ParamTree
