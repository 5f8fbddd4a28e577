import ParamTree.Proofs.ParserSound
import ParamTree.Proofs.ScalarTexts

/-!
# Numbers that expressions write

A float of integral value below `2 ^ 53` is written by no numeral and is the result of no operation.
Such floats come from outside. Main statement: `Expr.isReduced_of_ofText`.
-/

namespace ParamTree

namespace Number

def IsReduced (n : Number) : Prop :=
  n.reduced = n

theorem isReduced_integer {value : Int} {range} : (integer value range).IsReduced :=
  rfl

theorem isReduced_of_ofInt? {value : Int} {n : Number} (h : ofInt? value = some n) :
    n.IsReduced := by
  rw [ofInt?] at h
  split at h
  · cases h
    exact isReduced_integer
  · cases h

theorem isReduced_of_ofSigned? {value : Int} {n : Number} (h : ofSigned? value = some n) :
    n.IsReduced := by
  rw [ofSigned?] at h
  split at h
  · exact isReduced_of_ofInt? h
  · cases h

theorem isReduced_ofBinary64 (x : Binary64) : (ofBinary64 x).IsReduced := by
  have hKept : (float x).reduced = ofBinary64 x := rfl
  by_cases hIntegral : x.isIntegral ∧ x.truncate.natAbs < 0x20000000000000
  · cases hInteger : ofInt? x.truncate with
    | some n =>
      rw [ofBinary64, if_pos hIntegral, hInteger]
      exact isReduced_of_ofInt? hInteger
    | none =>
      have hFloat : ofBinary64 x = .float x := by
        rw [ofBinary64, if_pos hIntegral, hInteger]
        rfl
      rw [hFloat, IsReduced, hKept, hFloat]
  · have hFloat : ofBinary64 x = .float x := by
      rw [ofBinary64, if_neg hIntegral]
    rw [hFloat, IsReduced, hKept, hFloat]

theorem isReduced_of_ofNumeral? {text : List Char} {n : Number} (h : ofNumeral? text = some n) :
    n.IsReduced := by
  simp only [ofNumeral?] at h
  split at h
  · rename_i hInteger
    cases h
    split at hInteger
    · exact isReduced_of_ofSigned? hInteger
    · cases hInteger
  · obtain ⟨x, -, rfl⟩ := Option.map_eq_some_iff.mp h
    exact isReduced_ofBinary64 x

theorem isReduced_of_signedResult? {op : Arithmetic} {x y : Int} {n : Number}
    (h : signedResult? op x y = some n) : n.IsReduced := by
  cases op with
  | add | sub | mul => exact isReduced_of_ofSigned? h
  | div =>
    rw [signedResult?] at h
    split at h
    · exact isReduced_of_ofSigned? h
    · cases h
  | rem =>
    obtain ⟨_, -, hRemainder⟩ := Option.bind_eq_some_iff.mp h
    exact isReduced_of_ofSigned? hRemainder

theorem isReduced_of_arithmetic {op : Arithmetic} {a b n : Number}
    (h : arithmetic op a b = .ok n) : n.IsReduced := by
  rw [arithmetic] at h
  split at h
  · cases h
  split at h
  · rename_i hExact
    cases h
    rw [exactResult?] at hExact
    split at hExact
    · exact isReduced_of_signedResult? hExact
    · cases hExact
  · split at h
    · cases h
      exact isReduced_ofBinary64 _
    · cases h

theorem isReduced_negate (n : Number) : n.negate.IsReduced := by
  rw [negate]
  split
  · rename_i hExact
    obtain ⟨_, -, hOpposite⟩ := Option.bind_eq_some_iff.mp hExact
    exact isReduced_of_ofSigned? hOpposite
  · exact isReduced_ofBinary64 _

end Number

/-- Every number of the value is reduced. -/
inductive Json.IsReduced : Json → Prop where
  | null : IsReduced .null
  | bool (value : Bool) : IsReduced (.bool value)
  | number {n : Number} : n.IsReduced → IsReduced (.number n)
  | string (text : String) : IsReduced (.string text)
  | array {items : List Json} : (∀ item ∈ items, IsReduced item) → IsReduced (.array items)
  | object {fields : List (String × Json)} :
    (∀ field ∈ fields, IsReduced field.2) → IsReduced (.object fields)

theorem Json.isReduced_number_iff {n : Number} : (Json.number n).IsReduced ↔ n.IsReduced := by
  constructor
  · rintro ⟨⟩
    assumption
  · exact .number

/-- Every value that the expression writes is reduced. -/
inductive Expr.IsReduced : Expr → Prop where
  | literal {value : Json} : value.IsReduced → IsReduced (.literal value)
  | array {items : List Expr} : (∀ item ∈ items, IsReduced item) → IsReduced (.array items)
  | object {entries : List (String × Expr)} :
    (∀ entry ∈ entries, IsReduced entry.2) → IsReduced (.object entries)
  | name (id : String) : IsReduced (.name id)
  | call (callee : String) {args : List Expr} :
    (∀ arg ∈ args, IsReduced arg) → IsReduced (.call callee args)
  | member (property : String) {target : Expr} : IsReduced target →
    IsReduced (.member target property)
  | index {target position : Expr} : IsReduced target → IsReduced position →
    IsReduced (.index target position)
  | unary (op : UnaryOp) {operand : Expr} : IsReduced operand → IsReduced (.unary op operand)
  | binary (op : BinaryOp) {left right : Expr} : IsReduced left → IsReduced right →
    IsReduced (.binary op left right)
  | and {left right : Expr} : IsReduced left → IsReduced right → IsReduced (.and left right)
  | or {left right : Expr} : IsReduced left → IsReduced right → IsReduced (.or left right)
  | conditional {condition yes no : Expr} : IsReduced condition → IsReduced yes → IsReduced no →
    IsReduced (.conditional condition yes no)

def Token.IsReduced : Token → Prop
  | .number n => n.IsReduced
  | _ => True

namespace Lexer

theorem isReduced_of_readNumber {first : Char} {rest : List Char} {result : Token × List Char}
    (h : readNumber first rest = .ok result) : result.1.IsReduced := by
  simp only [readNumber] at h
  split at h
  · rename_i hNumeral
    cases h
    exact Number.isReduced_of_ofNumeral? hNumeral
  · cases h

/-- Numbers are read by `readNumber` alone. -/
theorem isReduced_of_readToken {c : Char} {rest : List Char} {result : Token × List Char}
    (h : readToken c rest = .ok result) : result.1.IsReduced := by
  have hOrEqual : ∀ alone withEqual, (orEqual alone withEqual rest).1.IsReduced := by
    intro alone withEqual
    rw [orEqual]
    split <;> trivial
  unfold readToken at h
  split at h
  · cases h; trivial
  obtain ⟨-, h⟩ | ⟨-, h⟩ := taken_of_ite h
  · obtain ⟨-, h⟩ | ⟨-, h⟩ := taken_of_ite h
    · exact isReduced_of_readNumber h
    · cases h; trivial
  obtain ⟨-, h⟩ | ⟨-, h⟩ := taken_of_ite h
  · cases h; exact hOrEqual .lt .le
  obtain ⟨-, h⟩ | ⟨-, h⟩ := taken_of_ite h
  · cases h; exact hOrEqual .gt .ge
  obtain ⟨-, h⟩ | ⟨-, h⟩ := taken_of_ite h
  · split at h <;> cases h <;> trivial
  obtain ⟨-, h⟩ | ⟨-, h⟩ := taken_of_ite h
  · split at h
    · cases h; trivial
    · cases h
  obtain ⟨-, h⟩ | ⟨-, h⟩ := taken_of_ite h
  · obtain ⟨tail, -, rfl⟩ := map_eq_ok h
    trivial
  obtain ⟨-, h⟩ | ⟨-, h⟩ := taken_of_ite h
  · exact isReduced_of_readNumber h
  obtain ⟨-, h⟩ | ⟨-, h⟩ := taken_of_ite h
  · cases h; trivial
  split at h
  · cases h; trivial
  · cases h

theorem isReduced_of_tokensFrom {total : Nat} {text : List Char} {tokens : List Located}
    (h : tokensFrom total text = .ok tokens) : ∀ token ∈ kinds tokens, token.IsReduced := by
  fun_induction tokensFrom total text generalizing tokens with
  | case1 =>
    cases h
    exact List.forall_mem_singleton.mpr trivial
  | case2 => cases h
  | case3 text c rest _ token after hToken ih =>
    obtain ⟨others, hOthers, rfl⟩ := map_eq_ok h
    exact List.forall_mem_cons.mpr ⟨isReduced_of_readToken hToken, ih hOthers⟩

end Lexer

namespace Grammar

open ParamTree.Parser (levels atom)

/-- What a phrase continues is reduced. -/
def Category.IsReduced : Category → Prop
  | .chain _ left => left.IsReduced
  | .suffixes target => target.IsReduced
  | _ => True

theorem isReduced_of_joins {number : Nat} {sign : Symbol} {join : Expr → Expr → Expr}
    (h : Joins number sign join) {left right : Expr} (hLeft : left.IsReduced)
    (hRight : right.IsReduced) : (join left right).IsReduced := by
  obtain ⟨op, rfl⟩ | rfl | rfl := kind_of_joins h
  · exact .binary op hLeft hRight
  · exact .and hLeft hRight
  · exact .or hLeft hRight

theorem isReduced_atom (name : String) : (atom name).IsReduced := by
  rw [atom]
  split
  · exact .literal (.bool true)
  split
  · exact .literal (.bool false)
  split
  · exact .literal .null
  · exact .name name

theorem Derives.isReduced {category : Category} {budget : Nat} {xs : List Token} {e : Expr}
    (h : Derives category budget xs e) (hTokens : ∀ token ∈ xs, token.IsReduced)
    (hGiven : category.IsReduced) : e.IsReduced := by
  have hRest : ∀ {token : Token} {others : List Token}, (∀ t ∈ token :: others, t.IsReduced) →
      ∀ t ∈ others, t.IsReduced := fun h => (List.forall_mem_cons.mp h).2
  -- what a chain or suffixes continue has been derived before them, so it is reduced by then
  induction h with
  | single _ ih => exact ih hTokens trivial
  | conditional _ _ _ ih ih' ih'' =>
    obtain ⟨h, hNo⟩ := List.forall_mem_append.mp hTokens
    obtain ⟨hCondition, hYes⟩ := List.forall_mem_append.mp h
    exact .conditional (ih hCondition trivial) (ih' (hRest hYes) trivial)
      (ih'' (hRest hNo) trivial)
  | level _ _ _ ih ih' =>
    obtain ⟨hLeft, hChain⟩ := List.forall_mem_append.mp hTokens
    exact ih' hChain (ih hLeft trivial)
  | chainEnd | suffixesEnd => exact hGiven
  | chainMore hJoins _ _ ih ih' =>
    obtain ⟨hRight, hChain⟩ := List.forall_mem_append.mp hTokens
    exact ih' hChain (isReduced_of_joins hJoins hGiven (ih (hRest hRight) trivial))
  | unary _ _ ih => exact .unary _ (ih (hRest hTokens) trivial)
  | postfixed _ _ ih ih' =>
    obtain ⟨hTarget, hSuffixes⟩ := List.forall_mem_append.mp hTokens
    exact ih' hSuffixes (ih hTarget trivial)
  | call _ _ ih ih' =>
    obtain ⟨hArgs, hSuffixes⟩ := List.forall_mem_append.mp hTokens
    cases ih (hRest hArgs) trivial with
    | array hArgs => exact ih' hSuffixes (.call _ hArgs)
  | member _ ih => exact ih (hRest (hRest hTokens)) (.member _ hGiven)
  | index _ _ ih ih' =>
    obtain ⟨hPosition, hSuffixes⟩ := List.forall_mem_append.mp hTokens
    exact ih' (hRest hSuffixes) (.index hGiven (ih (hRest hPosition) trivial))
  | number => exact .literal (.number (hTokens _ List.mem_cons_self))
  | string => exact .literal (.string _)
  | ident => exact isReduced_atom _
  | group _ ih =>
    obtain ⟨hInner, -⟩ := List.forall_mem_append.mp hTokens
    exact ih (hRest hInner) trivial
  | array _ ih | object _ ih => exact ih (hRest hTokens) trivial
  | itemsEnd => exact .array nofun
  | itemsLast _ ih =>
    obtain ⟨hItem, -⟩ := List.forall_mem_append.mp hTokens
    exact .array (List.forall_mem_singleton.mpr (ih hItem trivial))
  | itemsMore _ _ ih ih' =>
    obtain ⟨hItem, hItems⟩ := List.forall_mem_append.mp hTokens
    cases ih' (hRest hItems) trivial with
    | array hItems => exact .array (List.forall_mem_cons.mpr ⟨ih hItem trivial, hItems⟩)
  | entriesEnd => exact .object nofun
  | entriesLast _ _ ih =>
    obtain ⟨hValue, -⟩ := List.forall_mem_append.mp hTokens
    exact .object (List.forall_mem_singleton.mpr (ih (hRest (hRest hValue)) trivial))
  | entriesMore _ _ _ ih ih' =>
    obtain ⟨hValue, hEntries⟩ := List.forall_mem_append.mp hTokens
    cases ih' (hRest hEntries) trivial with
    | object hFields =>
      exact .object (List.forall_mem_cons.mpr ⟨ih (hRest (hRest hValue)) trivial, hFields⟩)

end Grammar

theorem Expr.isReduced_of_ofText {text : String} {expr : Expr} (h : Expr.ofText text = .ok expr) :
    expr.IsReduced := by
  obtain ⟨tokens, hTokens, hExpr⟩ := Except.exists_of_bind_eq_ok h
  obtain ⟨used, rest, rfl, -, hDerives⟩ := Grammar.derives_of_ofTokens hExpr
  have hUsed := Lexer.isReduced_of_tokensFrom hTokens
  rw [kinds_append] at hUsed
  exact hDerives.isReduced (List.forall_mem_append.mp hUsed).1 trivial

end ParamTree
