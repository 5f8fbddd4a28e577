import ParamTree.Proofs.ParserLimit
import ParamTree.Proofs.ParserProgress
import ParamTree.Proofs.TokenEnds

/-!
# Budgets of siblings

An expression that is accepted in parentheses leaves one level of the budget free, and the items of
an array use that level one after the other, however many they are. Main statement:
`siblings_share_no_budget`.
-/

namespace ParamTree

open Grammar Lexer ParamTree.Parser

namespace Parser

/-- The operand that stands first in an operation is read within the same budget. -/
theorem operand_of_levelOf {operand : Nat → Parser Expr} {count budget : Nat} (hCount : count ≤ 6)
    {tokens : List Located} {result : Expr × List Located}
    (h : levelOf operand count budget tokens = .ok result) :
    ∃ first, operand budget tokens = .ok first := by
  refine levelOf_induction (motive := fun _ nested => ∀ result,
    nested budget tokens = .ok result → ∃ first, operand budget tokens = .ok first)
    (fun result h => ⟨result, h⟩) ?_ hCount result h
  intro _ operators nested _ hNested result hLevel
  obtain ⟨left, hLeft, -⟩ := Except.exists_of_bind_eq_ok hLevel
  exact hNested left hLeft

/-- Behind a parenthesis, a nested expression is read with one level less. -/
theorem expression_of_lParen {budget : Nat} {paren : Located} {tokens : List Located}
    {result : Expr × List Located} (hParen : paren.token = .symbol .lParen)
    (h : expression operand (budget + 1) (paren :: tokens) = .ok result) :
    ∃ inner, expression operand budget tokens = .ok inner := by
  obtain ⟨condition, hCondition, -⟩ := Except.exists_of_bind_eq_ok h
  obtain ⟨first, hOperand⟩ := operand_of_levelOf (Nat.le_refl 6) hCondition
  have hNotSign : unaryOp? (peek (paren :: tokens)) = none := by
    rw [peek, hParen]
    rfl
  rw [operand_eq, operandStep, hNotSign] at hOperand
  obtain ⟨target, hPrimary, -⟩ := Except.exists_of_bind_eq_ok hOperand
  rw [primary, peek, hParen] at hPrimary
  obtain ⟨inner, hInner, -⟩ := Except.exists_of_bind_eq_ok hPrimary
  rw [advance_symbol hParen] at hInner
  exact ⟨inner, hInner⟩

end Parser

namespace Grammar

theorem expression_of_derives {budget : Nat} {used rest : List Located} {e : Expr}
    (h : Derives .expression budget (kinds used) e) (hStops : Stops 7 (peek rest)) :
    expression operand budget (used ++ rest) = .ok (e, rest) :=
  h.accepted rfl hStops

theorem exists_kinds (xs : List Token) : ∃ used, kinds used = xs := by
  refine ⟨xs.map fun token => ⟨token, 0⟩, ?_⟩
  rw [kinds, List.map_map]
  exact List.map_id xs

/-- An expression that is accepted in parentheses as well is derived with one level less. -/
theorem Derives.of_grouped {budget : Nat} {xs : List Token} {e other : Expr}
    (h : Derives .expression (budget + 1) xs e)
    (hGrouped : Derives .expression (budget + 1) (.symbol .lParen :: xs ++ [.symbol .rParen]) other) :
    Derives .expression budget xs e := by
  obtain ⟨used, rfl⟩ := exists_kinds xs
  have hClosing : Stops 7 (peek [⟨.symbol .rParen, 0⟩]) := stops_of_rank_none rfl 7
  -- the nested parser reads something, and with one level more it would read the whole expression
  have hWhole := @expression_of_derives _ (⟨.symbol .lParen, 0⟩ :: used ++ [⟨.symbol .rParen, 0⟩]) []
    other (by simpa using hGrouped) (stops_of_rank_none rfl 7)
  rw [List.append_nil] at hWhole
  obtain ⟨⟨inner, rest⟩, hSmall⟩ := expression_of_lParen rfl hWhole
  have hLarge := expression_of_derives h hClosing
  have hGrows : GrowsBelow (budget + 1) (expression operand) :=
    expression_growsBelow (operand_growsBelow budget)
  obtain hSame | ⟨offset, hDeep⟩ := hGrows budget (Nat.lt_succ_self _) (budget + 1) (Nat.le_succ _)
    (used ++ [⟨.symbol .rParen, 0⟩])
  · rw [hLarge] at hSame
    obtain ⟨front, hFront, hDerives⟩ := Counting.reads_nested budget hSame
    rwa [List.append_cancel_right hFront]
  · cases hSmall.symm.trans hDeep

/-- A text of items with commas between them, and the tokens and the expressions of the items. -/
theorem derives_items {budget : Nat} {items : List (List Char × Expr)}
    (h : ∀ item ∈ items, ∃ xs, Spells item.1 xs ∧ Derives .expression budget xs item.2) :
    ∃ xs, Spells ([',', ' '].intercalate (items.map Prod.fst) ++ [']']) xs ∧
      Derives (.items .rBracket) budget xs (.array (items.map Prod.snd)) := by
  have hEnd : Spells [']'] [.symbol .rBracket] :=
    spells_sign rfl (by decide) (.blanks rfl)
  induction items with
  | nil => exact ⟨_, hEnd, .itemsEnd⟩
  | cons item items ih =>
    obtain ⟨⟨xs, hSpells, hDerives⟩, hOthers⟩ := List.forall_mem_cons.mp h
    cases items with
    | nil =>
      refine ⟨_, ?_, .itemsLast hDerives⟩
      rw [List.map_singleton, List.intercalate_singleton]
      exact hSpells.append (breaks_cons (by decide) []) hEnd
    | cons next items =>
      obtain ⟨ys, hRest, hItems⟩ := ih hOthers
      refine ⟨_, ?_, .itemsMore hDerives hItems⟩
      rw [List.map_cons, List.map_cons, List.intercalate_cons_cons, List.append_assoc,
        List.append_assoc]
      have hBlank := @Spells.blank _ _ ' ' hRest (by decide)
      have hComma := @spells_sign ',' _ _ _ rfl (by decide) hBlank
      exact hSpells.append (breaks_cons (by decide) _) hComma

end Grammar

namespace Expr

/-- The text of an array with the texts of the elements. -/
def arrayText (elements : List String) : String :=
  "[" ++ ", ".intercalate elements ++ "]"

def inParentheses (text : String) : String :=
  "(" ++ text ++ ")"

theorem derives_of_inParentheses {text : String} {e : Expr} (h : ofText text = .ok e)
    (hGrouped : ofText (inParentheses text) = .ok e) :
    ∃ xs, Spells text.toList xs ∧ Derives .expression 127 xs e := by
  obtain ⟨xs, hSpells, hDerives⟩ := (ofText_eq_ok_iff text e).mp h
  obtain ⟨ys, hSpellsGrouped, hDerivesGrouped⟩ := (ofText_eq_ok_iff _ e).mp hGrouped
  have hClosing : Spells [')'] [.symbol .rParen] := spells_sign rfl (by decide) (.blanks rfl)
  have hInner := hSpells.append (breaks_cons (by decide) []) hClosing
  have hTokens : Spells (inParentheses text).toList (.symbol .lParen :: (xs ++ [.symbol .rParen])) := by
    rw [inParentheses, String.toList_append, String.toList_append]
    exact spells_sign rfl (by decide) hInner
  rw [hSpellsGrouped.unique hTokens] at hDerivesGrouped
  exact ⟨xs, hSpells, Derives.of_grouped hDerives hDerivesGrouped⟩

/-- The elements of an array stand one level below the array, whatever their number. -/
theorem ofText_arrayText {elements : List (String × Expr)}
    (h : ∀ element ∈ elements, ofText element.1 = .ok element.2 ∧
      ofText (inParentheses element.1) = .ok element.2) :
    ofText (arrayText (elements.map Prod.fst)) = .ok (.array (elements.map Prod.snd)) := by
  have hItems : ∀ item ∈ elements.map (Prod.map String.toList id),
      ∃ xs, Spells item.1 xs ∧ Derives .expression 127 xs item.2 := by
    rintro item hItem
    obtain ⟨element, hElement, rfl⟩ := List.mem_map.mp hItem
    obtain ⟨hAlone, hGrouped⟩ := h element hElement
    exact derives_of_inParentheses hAlone hGrouped
  obtain ⟨xs, hSpells, hDerives⟩ := derives_items hItems
  have hText : (arrayText (elements.map Prod.fst)).toList = '[' :: ([',', ' '].intercalate
      ((elements.map (Prod.map String.toList id)).map Prod.fst) ++ [']']) := by
    rw [arrayText, String.toList_append, String.toList_append, String.toList_intercalate,
      List.map_map, List.map_map]
    rfl
  have hElements : (elements.map (Prod.map String.toList id)).map Prod.snd =
      elements.map Prod.snd :=
    List.map_map
  rw [hElements] at hDerives
  have hOperand := Derives.postfixed (.array hDerives) .suffixesEnd
  rw [List.append_nil] at hOperand
  have hLevel : Derives (.level (0 + 6)) 127 _ _ := derives_level_add hOperand (by decide)
  refine (ofText_eq_ok_iff _ _).mpr ⟨_, ?_, .single hLevel⟩
  rw [hText]
  exact spells_sign rfl (by decide) hSpells

end Expr

namespace Counting

/-- Every method of the parser that counts nested levels restores the count and advances, and the
parser is the one with budgets. So the elements of an array can be as many as one likes. -/
theorem siblings_share_no_budget :
    (∀ tokens, EndsInEof tokens → ∀ (α : Type) (method : Method α),
      Progresses tokens (method.run tokens)) ∧
    (∀ text result, (∃ fuel, parse text fuel = some result) ↔ result = Expr.ofText text) ∧
    ∀ elements : List (String × Expr),
      (∀ element ∈ elements, Expr.ofText element.1 = .ok element.2 ∧
        Expr.ofText (Expr.inParentheses element.1) = .ok element.2) →
      Expr.ofText (Expr.arrayText (elements.map Prod.fst)) = .ok (.array (elements.map Prod.snd)) :=
  ⟨fun _ hEnd _ method => method.progresses hEnd, parse_eq_some_iff, fun _ => Expr.ofText_arrayText⟩

/-- Two elements, the second of them with a sign. -/
theorem siblings_share_no_budget_two :
    let tokens : List Located := [⟨.ident "a", 0⟩, ⟨.eof, 1⟩]
    EndsInEof tokens ∧ Progresses tokens (expression tokens) ∧
    Expr.ofText "[a, -b]" = .ok (.array [.name "a", .unary .neg (.name "b")]) := by
  intro tokens
  have hEnd : EndsInEof tokens := ⟨[⟨.ident "a", 0⟩], ⟨.eof, 1⟩, rfl, rfl⟩
  have hName : Token.ofText "a" = .ok [⟨.ident "a", 0⟩, ⟨.eof, 1⟩] := by
    apply Except.eq_ok_of_toOption
    decide +kernel
  have hNameGrouped : Token.ofText "(a)" = .ok [⟨.symbol .lParen, 0⟩, ⟨.ident "a", 1⟩,
      ⟨.symbol .rParen, 2⟩, ⟨.eof, 3⟩] := by
    apply Except.eq_ok_of_toOption
    decide +kernel
  have hSigned : Token.ofText "-b" = .ok [⟨.symbol .minus, 0⟩, ⟨.ident "b", 1⟩, ⟨.eof, 2⟩] := by
    apply Except.eq_ok_of_toOption
    decide +kernel
  have hSignedGrouped : Token.ofText "(-b)" = .ok [⟨.symbol .lParen, 0⟩, ⟨.symbol .minus, 1⟩,
      ⟨.ident "b", 2⟩, ⟨.symbol .rParen, 3⟩, ⟨.eof, 4⟩] := by
    apply Except.eq_ok_of_toOption
    decide +kernel
  obtain ⟨hProgresses, -, hSiblings⟩ := siblings_share_no_budget
  refine ⟨hEnd, hProgresses tokens hEnd Expr .expression, ?_⟩
  apply hSiblings [("a", .name "a"), ("-b", .unary .neg (.name "b"))]
  intro element hElement
  simp only [List.mem_cons, List.not_mem_nil, or_false] at hElement
  obtain rfl | rfl := hElement
  · exact ⟨congrArg (· >>= Expr.ofTokens) hName, congrArg (· >>= Expr.ofTokens) hNameGrouped⟩
  · exact ⟨congrArg (· >>= Expr.ofTokens) hSigned, congrArg (· >>= Expr.ofTokens) hSignedGrouped⟩

end Counting

end ParamTree
