import ParamTree.Proofs.PhraseEnds

/-!
# Unambiguity

Tokens are spelled by at most one derivation. For every rule the tokens say where its parts end and
that no other rule was used. Main statement: `Derivation.unique`.
-/

namespace ParamTree.Grammar

open ParamTree.Parser

namespace Derivation

/-! ### One rule at a time -/

section Rules

variable {e f g h : Expr} {count : Nat} {sign other : Symbol} {piece rest behind : List Token}

theorem expression_inj {d : Derivation .expression e} {d' : Derivation .expression f}
    (hRest : Ends 7 rest) (hBehind : Ends 7 behind)
    (hEq : d.spelling ++ rest = d'.spelling ++ behind) :
    d.spelling = d'.spelling ∧ rest = behind :=
  (d.readsBack_expression hRest).inj (d'.readsBack_expression hBehind) hEq

theorem ends_colon (rest : List Token) : Ends 7 (.symbol .colon :: rest) :=
  stops_of_rank_none rfl 7

theorem ends_comma (rest : List Token) : Ends 7 (.symbol .comma :: rest) :=
  stops_of_rank_none rfl 7

theorem ends_question (rest : List Token) : Ends 6 (.symbol .question :: rest) := by
  rintro rank ⟨⟩
  decide

theorem condition_inj {d : Derivation (.level 6) e} {d' : Derivation (.level 6) f}
    (hEq : d.spelling ++ .symbol .question :: rest = d'.spelling ++ .symbol .question :: behind) :
    d.spelling = d'.spelling ∧ rest = behind := by
  obtain ⟨hCondition, hRest⟩ :=
    (d.readsBack_level (ends_question rest)).inj (d'.readsBack_level (ends_question behind)) hEq
  exact ⟨hCondition, (List.cons.inj hRest).2⟩

theorem condition_ne {d : Derivation (.level 6) e} {d' : Derivation (.level 6) f} :
    d.spelling ≠ d'.spelling ++ .symbol .question :: rest := by
  intro hEq
  rw [← List.append_nil d.spelling] at hEq
  have hRest := (d.readsBack_level (ends_nil 6)).inj (d'.readsBack_level (ends_question rest)) hEq
  cases hRest.2

theorem operation_inj {d : Derivation (.level (count + 1)) e} {right : Derivation (.level count) f}
    {d' : Derivation (.level (count + 1)) g} {right' : Derivation (.level count) h}
    (hRank : rank? (.symbol sign) = some (count + 1))
    (hOther : rank? (.symbol other) = some (count + 1))
    (hEq : d.spelling ++ .symbol sign :: right.spelling =
      d'.spelling ++ .symbol other :: right'.spelling) :
    d.spelling = d'.spelling ∧ sign = other ∧ right.spelling = right'.spelling := by
  obtain ⟨pieces, hPieces⟩ := d.sequence_operations
  obtain ⟨others, hOthers⟩ := d'.sequence_operations
  obtain ⟨hLeft, hPiece⟩ := (separable_operations count).snoc_inj hPieces
    ⟨sign, _, rfl, hRank, _, right, rfl⟩ hOthers ⟨other, _, rfl, hOther, _, right', rfl⟩ hEq
  obtain ⟨hSign, hRight⟩ := List.cons.inj hPiece
  exact ⟨hLeft, Token.symbol.inj hSign, hRight⟩

theorem single_ne_operation {d : Derivation (.level count) e}
    {left : Derivation (.level (count + 1)) f} {right : Derivation (.level count) g}
    (hRank : rank? (.symbol sign) = some (count + 1)) :
    d.spelling ≠ left.spelling ++ .symbol sign :: right.spelling := by
  obtain ⟨pieces, hPieces⟩ := left.sequence_operations
  exact (separable_operations count).head_ne_snoc ⟨_, d, rfl⟩ hPieces
    ⟨sign, _, rfl, hRank, _, right, rfl⟩

theorem suffix_inj {d : Derivation .postfixed e} {d' : Derivation .postfixed f}
    {otherPiece : List Token} (hPiece : SuffixPiece piece) (hOther : SuffixPiece otherPiece)
    (hEq : d.spelling ++ piece = d'.spelling ++ otherPiece) :
    d.spelling = d'.spelling ∧ piece = otherPiece := by
  obtain ⟨pieces, hPieces⟩ := d.sequence_suffixes
  obtain ⟨others, hOthers⟩ := d'.sequence_suffixes
  exact separable_suffixes.snoc_inj hPieces hPiece hOthers hOther hEq

theorem primary_ne_suffix {d : Derivation .primary e} {d' : Derivation .postfixed f}
    (hPiece : SuffixPiece piece) : d.spelling ≠ d'.spelling ++ piece := by
  obtain ⟨pieces, hPieces⟩ := d'.sequence_suffixes
  exact separable_suffixes.head_ne_snoc ⟨_, d, rfl⟩ hPieces hPiece

/-- Only a signed operand begins with a sign. -/
theorem signed_ne_unsigned {op : UnaryOp} (hSign : Sign sign op) {d : Derivation .postfixed e} :
    .symbol sign :: rest ≠ d.spelling := by
  obtain ⟨pieces, head, ⟨f, d', rfl⟩, -, hSpelling⟩ := d.sequence_suffixes
  obtain ⟨need, hDerives⟩ := d'.fitsFrom
  obtain ⟨token, others, hHead, -, hUnary⟩ := (hDerives need (Nat.le_refl _)).headOf
  rw [hSpelling, hHead]
  intro hEq
  rw [← (List.cons.inj hEq).1, unaryOp?_of_sign hSign] at hUnary
  cases hUnary

theorem expression_ne_nil {d : Derivation .expression e} : d.spelling ≠ [] := by
  obtain ⟨need, hDerives⟩ := d.fitsFrom
  obtain ⟨token, others, hSpelling, -⟩ := (hDerives need (Nat.le_refl _)).headOf
  rw [hSpelling]
  exact List.cons_ne_nil _ _

theorem last_ne_more {d : Derivation .expression e} {d' : Derivation .expression f} :
    d.spelling ≠ d'.spelling ++ .symbol .comma :: rest := by
  intro hEq
  rw [← List.append_nil d.spelling] at hEq
  cases (expression_inj (ends_nil 7) (ends_comma rest) hEq).2

theorem more_inj {d : Derivation .expression e} {d' : Derivation .expression f}
    (hEq : d.spelling ++ .symbol .comma :: rest = d'.spelling ++ .symbol .comma :: behind) :
    d.spelling = d'.spelling ∧ rest = behind := by
  obtain ⟨hItem, hRest⟩ := expression_inj (ends_comma rest) (ends_comma behind) hEq
  exact ⟨hItem, (List.cons.inj hRest).2⟩

end Rules

/-! ### All rules -/

/-- No other derivation spells the same tokens. -/
def Unique {category : Nonterminal} {e : Expr} (d : Derivation category e) : Prop :=
  ∀ ⦃f⦄ (d' : Derivation category f), d.spelling = d'.spelling →
    (⟨e, d⟩ : (e : Expr) × Derivation category e) = ⟨f, d'⟩

section Unique

variable {e left right : Expr} {count : Nat}

theorem unique_simple {d : Derivation (.level 6) e} (hd : d.Unique) : (simple d).Unique := by
  intro f d' hEq
  cases d' with
  | simple other =>
    cases hd other hEq
    rfl
  | conditional condition yes no =>
    rw [spelling, spelling, List.append_assoc] at hEq
    exact absurd hEq condition_ne

theorem unique_conditional {condition : Derivation (.level 6) e} {yes : Derivation .expression left}
    {no : Derivation .expression right} (hCondition : condition.Unique) (hYes : yes.Unique)
    (hNo : no.Unique) : (conditional condition yes no).Unique := by
  intro f d' hEq
  cases d' with
  | simple other =>
    rw [spelling, spelling, List.append_assoc] at hEq
    exact absurd hEq.symm condition_ne
  | conditional otherCondition otherYes otherNo =>
    rw [spelling, spelling, List.append_assoc, List.append_assoc] at hEq
    obtain ⟨hFirst, hRest⟩ := condition_inj hEq
    obtain ⟨hMiddle, hLast⟩ := expression_inj (ends_colon _) (ends_colon _) hRest
    cases hCondition otherCondition hFirst
    cases hYes otherYes hMiddle
    cases hNo otherNo (List.cons.inj hLast).2
    rfl

theorem unique_single {hCount : count < 6} {d : Derivation (.level count) e} (hd : d.Unique) :
    (single hCount d).Unique := by
  intro f d' hEq
  cases d' with
  | single _ other =>
    cases hd other hEq
    rfl
  | operation sign hOperation left right =>
    exact absurd hEq (single_ne_operation hOperation.rank_eq)

theorem unique_operation {sign : Symbol} {hOperation : Operation left right count sign e}
    {dLeft : Derivation (.level (count + 1)) left} {dRight : Derivation (.level count) right}
    (hLeft : dLeft.Unique) (hRight : dRight.Unique) :
    (operation sign hOperation dLeft dRight).Unique := by
  intro f d' hEq
  cases d' with
  | single _ other => exact absurd hEq.symm (single_ne_operation hOperation.rank_eq)
  | operation other hOther otherLeft otherRight =>
    obtain ⟨hFirst, rfl, hLast⟩ := operation_inj hOperation.rank_eq hOther.rank_eq hEq
    cases hLeft otherLeft hFirst
    cases hRight otherRight hLast
    obtain rfl : e = f := hOperation.result_eq hOther
    rfl

theorem unique_signed {sign : Symbol} {op : UnaryOp} {hSign : Sign sign op}
    {d : Derivation (.level 0) e} (hd : d.Unique) : (signed sign hSign d).Unique := by
  intro f d' hEq
  cases d' with
  | signed other hOther d' =>
    obtain ⟨hSigns, hRest⟩ := List.cons.inj hEq
    obtain rfl := Token.symbol.inj hSigns
    cases hd d' hRest
    obtain rfl := hSign.op_eq hOther
    rfl
  | unsigned d' => exact absurd hEq (signed_ne_unsigned hSign)

theorem unique_unsigned {d : Derivation .postfixed e} (hd : d.Unique) : (unsigned d).Unique := by
  intro f d' hEq
  cases d' with
  | signed sign hSign d' => exact absurd hEq.symm (signed_ne_unsigned hSign)
  | unsigned d' =>
    cases hd d' hEq
    rfl

theorem unique_alone {d : Derivation .primary e} (hd : d.Unique) : (alone d).Unique := by
  intro f d' hEq
  cases d' with
  | alone other =>
    cases hd other hEq
    rfl
  | call callee args =>
    rw [spelling, spelling, List.append_assoc] at hEq
    exact absurd hEq (primary_ne_suffix (.call ⟨args, rfl⟩))
  | member property target => exact absurd hEq (primary_ne_suffix .member)
  | index target position =>
    rw [spelling, spelling, List.append_assoc] at hEq
    exact absurd hEq (primary_ne_suffix (.index ⟨_, position, rfl⟩))

theorem unique_call {callee : String} {args : List Expr}
    {dCallee : Derivation .postfixed (.name callee)} {dArgs : Derivation .items (.array args)}
    (hCallee : dCallee.Unique) (hArgs : dArgs.Unique) :
    (call dCallee dArgs).Unique := by
  intro f d' hEq
  have hPiece : SuffixPiece (.symbol .lParen :: dArgs.spelling ++ [.symbol .rParen]) :=
    .call ⟨dArgs, rfl⟩
  rw [spelling, List.append_assoc] at hEq
  cases d' with
  | alone other => exact absurd hEq.symm (primary_ne_suffix hPiece)
  | call otherCallee otherArgs =>
    rw [spelling, List.append_assoc] at hEq
    obtain ⟨hFirst, hLast⟩ := suffix_inj hPiece (.call ⟨otherArgs, rfl⟩) hEq
    cases hCallee otherCallee hFirst
    cases hArgs otherArgs (List.append_cancel_right (List.cons.inj hLast).2)
    rfl
  | member property target => cases (suffix_inj hPiece .member hEq).2
  | index target position =>
    rw [spelling, List.append_assoc] at hEq
    cases (suffix_inj hPiece (.index ⟨_, position, rfl⟩) hEq).2

theorem unique_member {property : String} {d : Derivation .postfixed e} (hd : d.Unique) :
    (member property d).Unique := by
  intro f d' hEq
  cases d' with
  | alone other => exact absurd hEq.symm (primary_ne_suffix .member)
  | call callee args =>
    rw [spelling, spelling, List.append_assoc] at hEq
    cases (suffix_inj .member (.call ⟨args, rfl⟩) hEq).2
  | member name target =>
    obtain ⟨hFirst, hLast⟩ := suffix_inj .member .member hEq
    cases hd target hFirst
    cases hLast
    rfl
  | index target position =>
    rw [spelling, spelling, List.append_assoc] at hEq
    cases (suffix_inj .member (.index ⟨_, position, rfl⟩) hEq).2

theorem unique_index {d : Derivation .postfixed left} {position : Derivation .expression right}
    (hd : d.Unique) (hPosition : position.Unique) : (index d position).Unique := by
  intro f d' hEq
  have hPiece : SuffixPiece (.symbol .lBracket :: position.spelling ++ [.symbol .rBracket]) :=
    .index ⟨_, position, rfl⟩
  rw [spelling, List.append_assoc] at hEq
  cases d' with
  | alone other => exact absurd hEq.symm (primary_ne_suffix hPiece)
  | call callee args =>
    rw [spelling, List.append_assoc] at hEq
    cases (suffix_inj hPiece (.call ⟨args, rfl⟩) hEq).2
  | member property target => cases (suffix_inj hPiece .member hEq).2
  | index target otherPosition =>
    rw [spelling, List.append_assoc] at hEq
    obtain ⟨hFirst, hLast⟩ := suffix_inj hPiece (.index ⟨_, otherPosition, rfl⟩) hEq
    cases hd target hFirst
    cases hPosition otherPosition (List.append_cancel_right (List.cons.inj hLast).2)
    rfl

theorem unique_number (value : Number) : (number value).Unique := by
  intro f d' hEq
  cases d' with
  | number other =>
    cases hEq
    rfl
  | string _ | word _ _ | group _ | array _ | object _ => cases hEq

theorem unique_string (text : String) : (string text).Unique := by
  intro f d' hEq
  cases d' with
  | string other =>
    cases hEq
    rfl
  | number _ | word _ _ | group _ | array _ | object _ => cases hEq

theorem unique_word {name : String} (hWord : Word name e) : (word name hWord).Unique := by
  intro f d' hEq
  cases d' with
  | word other hOther =>
    cases hEq
    obtain rfl : e = f := (word_iff_atom.mp hWord).symm.trans (word_iff_atom.mp hOther)
    rfl
  | number _ | string _ | group _ | array _ | object _ => cases hEq

theorem unique_group {d : Derivation .expression e} (hd : d.Unique) : (group d).Unique := by
  intro f d' hEq
  cases d' with
  | group other =>
    cases hd other (List.append_cancel_right (List.cons.inj hEq).2)
    rfl
  | number _ | string _ | word _ _ | array _ | object _ => cases hEq

theorem unique_array {elements : List Expr} {d : Derivation .items (.array elements)}
    (hd : d.Unique) : (array d).Unique := by
  intro f d' hEq
  cases d' with
  | array other =>
    cases hd other (List.append_cancel_right (List.cons.inj hEq).2)
    rfl
  | number _ | string _ | word _ _ | group _ | object _ => cases hEq

theorem unique_object {fields : List (String × Expr)} {d : Derivation .entries (.object fields)}
    (hd : d.Unique) : (object d).Unique := by
  intro f d' hEq
  cases d' with
  | object other =>
    cases hd other (List.append_cancel_right (List.cons.inj hEq).2)
    rfl
  | number _ | string _ | word _ _ | group _ | array _ => cases hEq

theorem unique_noItem : noItem.Unique := by
  intro f d' hEq
  cases d' with
  | noItem => rfl
  | lastItem d => exact absurd hEq.symm expression_ne_nil
  | moreItems d others =>
    have hNil : d.spelling ++ .symbol .comma :: others.spelling = [] := hEq.symm
    simp at hNil

theorem unique_lastItem {d : Derivation .expression e} (hd : d.Unique) : (lastItem d).Unique := by
  intro f d' hEq
  cases d' with
  | noItem => exact absurd hEq expression_ne_nil
  | lastItem other =>
    cases hd other hEq
    rfl
  | moreItems other others => exact absurd hEq last_ne_more

theorem unique_moreItems {d : Derivation .expression e} {elements : List Expr}
    {others : Derivation .items (.array elements)} (hd : d.Unique) (hOthers : others.Unique) :
    (moreItems d others).Unique := by
  intro f d' hEq
  cases d' with
  | noItem =>
    have hNil : d.spelling ++ .symbol .comma :: others.spelling = [] := hEq
    simp at hNil
  | lastItem other => exact absurd hEq.symm last_ne_more
  | moreItems other rest =>
    obtain ⟨hFirst, hRest⟩ := more_inj hEq
    cases hd other hFirst
    cases hOthers rest hRest
    rfl

theorem unique_noEntry : noEntry.Unique := by
  intro f d' hEq
  cases d' with
  | noEntry => rfl
  | lastEntry _ _ _ | moreEntries _ _ _ _ => cases hEq

theorem unique_lastEntry {token : Token} {key : String} {hKey : Key token key}
    {d : Derivation .expression e} (hd : d.Unique) : (lastEntry token hKey d).Unique := by
  intro f d' hEq
  cases d' with
  | noEntry => cases hEq
  | lastEntry other hOther d' =>
    obtain ⟨rfl, hRest⟩ := List.cons.inj hEq
    cases hd d' (List.cons.inj hRest).2
    obtain rfl := hKey.key_eq hOther
    rfl
  | moreEntries other hOther d' others =>
    exact absurd (List.cons.inj (List.cons.inj hEq).2).2 last_ne_more

theorem unique_moreEntries {token : Token} {key : String} {hKey : Key token key}
    {d : Derivation .expression e} {fields : List (String × Expr)}
    {others : Derivation .entries (.object fields)} (hd : d.Unique) (hOthers : others.Unique) :
    (moreEntries token hKey d others).Unique := by
  intro f d' hEq
  cases d' with
  | noEntry => cases hEq
  | lastEntry other hOther d' =>
    exact absurd (List.cons.inj (List.cons.inj hEq).2).2.symm last_ne_more
  | moreEntries other hOther d' rest =>
    obtain ⟨rfl, hRest⟩ := List.cons.inj hEq
    obtain ⟨hFirst, hLast⟩ := more_inj (List.cons.inj hRest).2
    cases hd d' hFirst
    cases hOthers rest hLast
    obtain rfl := hKey.key_eq hOther
    rfl

end Unique

theorem unique {category : Nonterminal} {e : Expr} (d : Derivation category e) : d.Unique := by
  induction d with
  | simple _ ih => exact unique_simple ih
  | conditional _ _ _ ihCondition ihYes ihNo => exact unique_conditional ihCondition ihYes ihNo
  | single _ _ ih => exact unique_single ih
  | operation _ _ _ _ ihLeft ihRight => exact unique_operation ihLeft ihRight
  | signed _ _ _ ih => exact unique_signed ih
  | unsigned _ ih => exact unique_unsigned ih
  | call _ _ ihCallee ihArgs => exact unique_call ihCallee ihArgs
  | member _ _ ih => exact unique_member ih
  | index _ _ ih ihPosition => exact unique_index ih ihPosition
  | alone _ ih => exact unique_alone ih
  | number value => exact unique_number value
  | string text => exact unique_string text
  | word _ hWord => exact unique_word hWord
  | group _ ih => exact unique_group ih
  | array _ ih => exact unique_array ih
  | object _ ih => exact unique_object ih
  | noItem => exact unique_noItem
  | lastItem _ ih => exact unique_lastItem ih
  | moreItems _ _ ih ihOthers => exact unique_moreItems ih ihOthers
  | noEntry => exact unique_noEntry
  | lastEntry _ _ _ ih => exact unique_lastEntry ih
  | moreEntries _ _ _ _ ih ihOthers => exact unique_moreEntries ih ihOthers

end Derivation

end ParamTree.Grammar
