import ParamTree.Proofs.Grammar

/-!
# Derivations

The grammar of expressions as a table of precedence has it, without a limit of nesting: operators
of one level join to the left, the conditional to the right. A derivation spells its tokens.
Main statements: `Derives.spelledAs` and `Derivation.fitsFrom`, by which a phrase is spelled by a
derivation if and only if it is derived within some budget.
-/

namespace ParamTree.Grammar

/-- The operation of a sign on two operands, by the number of its level. Tighter levels come
first. -/
inductive Operation (left right : Expr) : Nat → Symbol → Expr → Prop where
  | mul : Operation left right 0 .star (.binary (.arith .mul) left right)
  | div : Operation left right 0 .slash (.binary (.arith .div) left right)
  | rem : Operation left right 0 .percent (.binary (.arith .rem) left right)
  | add : Operation left right 1 .plus (.binary (.arith .add) left right)
  | sub : Operation left right 1 .minus (.binary (.arith .sub) left right)
  | lt : Operation left right 2 .lt (.binary (.order .lt) left right)
  | le : Operation left right 2 .le (.binary (.order .le) left right)
  | gt : Operation left right 2 .gt (.binary (.order .gt) left right)
  | ge : Operation left right 2 .ge (.binary (.order .ge) left right)
  | eq : Operation left right 3 .eqEq (.binary .eq left right)
  | notEq : Operation left right 3 .notEq (.binary .notEq left right)
  | and : Operation left right 4 .andAnd (.and left right)
  | or : Operation left right 5 .orOr (.or left right)

inductive Sign : Symbol → UnaryOp → Prop where
  | not : Sign .bang .not
  | neg : Sign .minus .neg
  | plus : Sign .plus .plus

/-- Three words are literals; all others are names. -/
inductive Word : String → Expr → Prop where
  | null : Word "null" (.literal .null)
  | true : Word "true" (.literal (.bool true))
  | false : Word "false" (.literal (.bool false))
  | name {id : String} : id ∉ ["null", "true", "false"] → Word id (.name id)

inductive Key : Token → String → Prop where
  | ident {name : String} : Key (.ident name) name
  | string {text : String} : Key (.string text) text
  | number {value : Number} : Key (.number value) value.text

inductive Nonterminal where
  | expression
  /-- Signed operands, with operators of the given number of levels. -/
  | level (count : Nat)
  | postfixed
  | primary
  | items
  | entries

/-- The rules of the grammar. Operations, calls, members and indexes recur at their left, a
conditional at its right. Lists may end with a comma. -/
inductive Derivation : Nonterminal → Expr → Type where
  | simple {e} : Derivation (.level 6) e → Derivation .expression e
  | conditional {condition yes no} :
    Derivation (.level 6) condition → Derivation .expression yes → Derivation .expression no →
    Derivation .expression (.conditional condition yes no)
  | single {count e} : count < 6 → Derivation (.level count) e → Derivation (.level (count + 1)) e
  | operation {count left right e} (sign : Symbol) :
    Operation left right count sign e → Derivation (.level (count + 1)) left →
    Derivation (.level count) right → Derivation (.level (count + 1)) e
  | signed {op e} (sign : Symbol) :
    Sign sign op → Derivation (.level 0) e → Derivation (.level 0) (.unary op e)
  | unsigned {e} : Derivation .postfixed e → Derivation (.level 0) e
  | call {callee args} :
    Derivation .postfixed (.name callee) → Derivation .items (.array args) →
    Derivation .postfixed (.call callee args)
  | member {target} (property : String) :
    Derivation .postfixed target → Derivation .postfixed (.member target property)
  | index {target position} :
    Derivation .postfixed target → Derivation .expression position →
    Derivation .postfixed (.index target position)
  | alone {e} : Derivation .primary e → Derivation .postfixed e
  | number (value : Number) : Derivation .primary (.literal (.number value))
  | string (text : String) : Derivation .primary (.literal (.string text))
  | word {e} (name : String) : Word name e → Derivation .primary e
  | group {e} : Derivation .expression e → Derivation .primary e
  | array {elements} : Derivation .items (.array elements) → Derivation .primary (.array elements)
  | object {fields} : Derivation .entries (.object fields) → Derivation .primary (.object fields)
  | noItem : Derivation .items (.array [])
  | lastItem {e} : Derivation .expression e → Derivation .items (.array [e])
  | moreItems {e elements} :
    Derivation .expression e → Derivation .items (.array elements) →
    Derivation .items (.array (e :: elements))
  | noEntry : Derivation .entries (.object [])
  | lastEntry {key e} (token : Token) :
    Key token key → Derivation .expression e → Derivation .entries (.object [(key, e)])
  | moreEntries {key e fields} (token : Token) :
    Key token key → Derivation .expression e → Derivation .entries (.object fields) →
    Derivation .entries (.object ((key, e) :: fields))

/-- The tokens of a derivation. Items and entries do without the sign that closes them. -/
def Derivation.spelling : {category : Nonterminal} → {e : Expr} → Derivation category e → List Token
  | _, _, .simple d => d.spelling
  | _, _, .conditional condition yes no =>
    condition.spelling ++ .symbol .question :: yes.spelling ++ .symbol .colon :: no.spelling
  | _, _, .single _ d => d.spelling
  | _, _, .operation sign _ left right => left.spelling ++ .symbol sign :: right.spelling
  | _, _, .signed sign _ d => .symbol sign :: d.spelling
  | _, _, .unsigned d => d.spelling
  | _, _, .call callee args =>
    callee.spelling ++ .symbol .lParen :: args.spelling ++ [.symbol .rParen]
  | _, _, .member property target => target.spelling ++ [.symbol .dot, .ident property]
  | _, _, .index target position =>
    target.spelling ++ .symbol .lBracket :: position.spelling ++ [.symbol .rBracket]
  | _, _, .alone d => d.spelling
  | _, _, .number value => [.number value]
  | _, _, .string text => [.string text]
  | _, _, .word name _ => [.ident name]
  | _, _, .group d => .symbol .lParen :: d.spelling ++ [.symbol .rParen]
  | _, _, .array d => .symbol .lBracket :: d.spelling ++ [.symbol .rBracket]
  | _, _, .object d => .symbol .lBrace :: d.spelling ++ [.symbol .rBrace]
  | _, _, .noItem => []
  | _, _, .lastItem d => d.spelling
  | _, _, .moreItems d others => d.spelling ++ .symbol .comma :: others.spelling
  | _, _, .noEntry => []
  | _, _, .lastEntry token _ d => token :: .symbol .colon :: d.spelling
  | _, _, .moreEntries token _ d others =>
    token :: .symbol .colon :: d.spelling ++ .symbol .comma :: others.spelling

/-! ### The tables of the parser -/

section Tables

open ParamTree.Parser (levels unaryOp? key? atom)

theorem operation_iff_joins {left right e : Expr} {number : Nat} {sign : Symbol} :
    Operation left right number sign e ↔ ∃ join, Joins number sign join ∧ join left right = e := by
  constructor
  · intro h
    cases h <;> exact ⟨_, ⟨_, rfl, rfl⟩, rfl⟩
  · rintro ⟨join, ⟨operators, hOperators, hJoin⟩, rfl⟩
    have hNumber : number < 6 := (List.getElem?_eq_some_iff.mp hOperators).1
    match number, hNumber with
    | 0, _ | 1, _ | 2, _ | 3, _ | 4, _ | 5, _ =>
      cases hOperators
      cases sign <;> cases hJoin <;> constructor

theorem sign_of_unaryOp? {token : Token} {op : UnaryOp} (h : unaryOp? token = some op) :
    ∃ sign, token = .symbol sign ∧ Sign sign op := by
  unfold unaryOp? at h
  split at h
  · cases h
    exact ⟨_, rfl, .not⟩
  · cases h
    exact ⟨_, rfl, .neg⟩
  · cases h
    exact ⟨_, rfl, .plus⟩
  · cases h

theorem unaryOp?_of_sign {sign : Symbol} {op : UnaryOp} (h : Sign sign op) :
    unaryOp? (.symbol sign) = some op := by
  cases h <;> rfl

theorem word_iff_atom {name : String} {e : Expr} : Word name e ↔ atom name = e := by
  constructor
  · rintro (_ | _ | _ | hName)
    · rfl
    · rfl
    · rfl
    · simp only [List.mem_cons, List.not_mem_nil, or_false, not_or] at hName
      simp [atom, hName]
  · rintro rfl
    unfold atom
    split
    · subst name
      exact .true
    split
    · subst name
      exact .false
    split
    · subst name
      exact .null
    · rename_i hTrue hFalse hNull
      exact .name (by simp [hTrue, hFalse, hNull])

theorem key_iff_key? {token : Token} {key : String} : Key token key ↔ key? token = some key := by
  constructor
  · intro h
    cases h <;> rfl
  · intro h
    unfold key? at h
    split at h <;> cases h <;> constructor

end Tables

/-! ### From phrases within a budget to derivations -/

def Spelled (category : Nonterminal) (xs : List Token) (e : Expr) : Prop :=
  ∃ d : Derivation category e, d.spelling = xs

/-- A chain and suffixes make what stands in front of them longer; lists end with their closing
sign. -/
def SpelledAs : Category → List Token → Expr → Prop
  | .expression, xs, e => Spelled .expression xs e
  | .level count, xs, e => Spelled (.level count) xs e
  | .chain count left, xs, e =>
    ∀ front, Spelled (.level (count + 1)) front left → Spelled (.level (count + 1)) (front ++ xs) e
  | .primary, xs, e => Spelled .primary xs e
  | .suffixes target, xs, e =>
    ∀ front, Spelled .postfixed front target → Spelled .postfixed (front ++ xs) e
  | .items closing, xs, e => ∃ inner, xs = inner ++ [.symbol closing] ∧ Spelled .items inner e
  | .entries, xs, e => ∃ inner, xs = inner ++ [.symbol .rBrace] ∧ Spelled .entries inner e

theorem Derives.spelledAs {category : Category} {budget : Nat} {xs : List Token} {e : Expr}
    (h : Derives category budget xs e) : SpelledAs category xs e := by
  induction h with
  | single _ ih =>
    obtain ⟨d, rfl⟩ := ih
    exact ⟨.simple d, rfl⟩
  | conditional _ _ _ ihCondition ihYes ihNo =>
    obtain ⟨condition, rfl⟩ := ihCondition
    obtain ⟨yes, rfl⟩ := ihYes
    obtain ⟨no, rfl⟩ := ihNo
    exact ⟨.conditional condition yes no, rfl⟩
  | level hCount _ _ ihLeft ihChain =>
    obtain ⟨left, rfl⟩ := ihLeft
    exact ihChain _ ⟨.single hCount left, rfl⟩
  | chainEnd =>
    intro front hFront
    rwa [List.append_nil]
  | chainMore hJoins _ _ ihRight ihChain =>
    rintro front ⟨left, rfl⟩
    obtain ⟨right, rfl⟩ := ihRight
    have hLonger := ihChain _
      ⟨.operation _ (operation_iff_joins.mpr ⟨_, hJoins, rfl⟩) left right, rfl⟩
    simpa [Derivation.spelling] using hLonger
  | unary hOp _ ih =>
    obtain ⟨d, rfl⟩ := ih
    obtain ⟨sign, rfl, hSign⟩ := sign_of_unaryOp? hOp
    exact ⟨.signed sign hSign d, rfl⟩
  | postfixed _ _ ihPrimary ihSuffixes =>
    obtain ⟨target, rfl⟩ := ihPrimary
    obtain ⟨d, hSpelling⟩ := ihSuffixes _ ⟨.alone target, rfl⟩
    exact ⟨.unsigned d, hSpelling⟩
  | suffixesEnd =>
    intro front hFront
    rwa [List.append_nil]
  | call _ _ ihArgs ihSuffixes =>
    rintro front ⟨callee, rfl⟩
    obtain ⟨inner, rfl, args, rfl⟩ := ihArgs
    have hLonger := ihSuffixes _ ⟨.call callee args, rfl⟩
    simpa [Derivation.spelling] using hLonger
  | member _ ihSuffixes =>
    rintro front ⟨target, rfl⟩
    have hLonger := ihSuffixes _ ⟨.member _ target, rfl⟩
    simpa [Derivation.spelling] using hLonger
  | index _ _ ihPosition ihSuffixes =>
    rintro front ⟨target, rfl⟩
    obtain ⟨position, rfl⟩ := ihPosition
    have hLonger := ihSuffixes _ ⟨.index target position, rfl⟩
    simpa [Derivation.spelling] using hLonger
  | number => exact ⟨.number _, rfl⟩
  | string => exact ⟨.string _, rfl⟩
  | ident => exact ⟨.word _ (word_iff_atom.mpr rfl), rfl⟩
  | group _ ih =>
    obtain ⟨d, rfl⟩ := ih
    exact ⟨.group d, rfl⟩
  | array _ ih =>
    obtain ⟨inner, rfl, d, rfl⟩ := ih
    exact ⟨.array d, rfl⟩
  | object _ ih =>
    obtain ⟨inner, rfl, d, rfl⟩ := ih
    exact ⟨.object d, rfl⟩
  | itemsEnd => exact ⟨[], rfl, .noItem, rfl⟩
  | itemsLast _ ih => exact ⟨_, rfl, let ⟨d, hSpelling⟩ := ih; ⟨.lastItem d, hSpelling⟩⟩
  | itemsMore _ _ ih ihItems =>
    obtain ⟨d, rfl⟩ := ih
    obtain ⟨inner, rfl, others, rfl⟩ := ihItems
    exact ⟨_, (List.append_assoc _ (.symbol .comma :: others.spelling) _).symm,
      .moreItems d others, rfl⟩
  | entriesEnd => exact ⟨[], rfl, .noEntry, rfl⟩
  | entriesLast hKey _ ih =>
    obtain ⟨d, rfl⟩ := ih
    exact ⟨_, rfl, .lastEntry _ (key_iff_key?.mpr hKey) d, rfl⟩
  | entriesMore hKey _ _ ih ihEntries =>
    obtain ⟨d, rfl⟩ := ih
    obtain ⟨inner, rfl, others, rfl⟩ := ihEntries
    exact ⟨_, (List.append_assoc (_ :: _ :: d.spelling) (.symbol .comma :: others.spelling) _).symm,
      .moreEntries _ (key_iff_key?.mpr hKey) d others, rfl⟩

/-! ### From derivations to phrases within a budget -/

/-- The phrase is derived within every budget that is large enough. Operators and suffixes that
are read after it need a budget of their own, which is added to that of those before. -/
def FitsFrom (need : Nat) : Nonterminal → List Token → Expr → Prop
  | .expression, xs, e => ∀ budget ≥ need, Derives .expression budget xs e
  | .level 0, xs, e => ∀ budget ≥ need, Derives (.level 0) budget xs e
  | .level (count + 1), xs, e => ∃ used, ∀ budget ≥ need, ∀ ys result,
      Derives (.chain count e) budget ys result →
      Derives (.level (count + 1)) (budget + used) (xs ++ ys) result
  | .postfixed, xs, e => ∃ used, ∀ budget ≥ need, ∀ ys result,
      Derives (.suffixes e) budget ys result → Derives (.level 0) (budget + used) (xs ++ ys) result
  | .primary, xs, e => ∀ budget ≥ need, Derives .primary budget xs e
  | .items, xs, e => ∀ budget ≥ need, ∀ closing,
      Derives (.items closing) budget (xs ++ [.symbol closing]) e
  | .entries, xs, e => ∀ budget ≥ need, Derives .entries budget (xs ++ [.symbol .rBrace]) e

section Productions

variable {need other count : Nat} {xs ys : List Token} {e left right : Expr}

theorem FitsFrom.level (h : FitsFrom need (.level count) xs e) :
    ∃ enough, ∀ budget ≥ enough, Derives (.level count) budget xs e := by
  cases count with
  | zero => exact ⟨need, h⟩
  | succ count =>
    obtain ⟨used, hChain⟩ := h
    refine ⟨need + used, fun budget hBudget => ?_⟩
    have hEnd := hChain (budget - used) (by omega) [] e .chainEnd
    rwa [List.append_nil, Nat.sub_add_cancel (by omega)] at hEnd

theorem fitsFrom_conditional {zs : List Token} {condition yes no : Expr} {last : Nat}
    (hCondition : ∀ budget ≥ need, Derives (.level 6) budget xs condition)
    (hYes : FitsFrom other .expression ys yes) (hNo : FitsFrom last .expression zs no) :
    FitsFrom (max need (max other last) + 1) .expression
      (xs ++ .symbol .question :: ys ++ .symbol .colon :: zs) (.conditional condition yes no) := by
  intro budget hBudget
  obtain ⟨below, rfl⟩ : ∃ below, budget = below + 1 := ⟨budget - 1, by omega⟩
  exact .conditional (hCondition below (by omega)) (hYes below (by omega)) (hNo below (by omega))

theorem fitsFrom_operation {sign : Symbol} (hOperation : Operation left right count sign e)
    (hLeft : FitsFrom need (.level (count + 1)) xs left)
    (hRight : ∀ budget ≥ other, Derives (.level count) budget ys right) :
    FitsFrom (max need other) (.level (count + 1)) (xs ++ .symbol sign :: ys) e := by
  obtain ⟨used, hChain⟩ := hLeft
  obtain ⟨join, hJoins, rfl⟩ := operation_iff_joins.mp hOperation
  refine ⟨1 + used, fun budget hBudget zs result hMore => ?_⟩
  have hLonger := hChain (budget + 1) (by omega) _ _
    (.chainMore hJoins (hRight budget (by omega)) hMore)
  rw [Nat.add_assoc] at hLonger
  simpa using hLonger

/-- One suffix more takes one level of the budget from those behind it. -/
theorem FitsFrom.snoc {piece : List Token} {longer : Expr} (h : FitsFrom need .postfixed xs e)
    (hPiece : ∀ budget ≥ other, ∀ ys result, Derives (.suffixes longer) budget ys result →
      Derives (.suffixes e) (budget + 1) (piece ++ ys) result) :
    FitsFrom (max need other) .postfixed (xs ++ piece) longer := by
  obtain ⟨used, hSuffixes⟩ := h
  refine ⟨1 + used, fun budget hBudget ys result hMore => ?_⟩
  have hLonger := hSuffixes (budget + 1) (by omega) _ _ (hPiece budget (by omega) _ _ hMore)
  rwa [Nat.add_assoc, ← List.append_assoc] at hLonger

theorem fitsFrom_call {callee : String} {args : List Expr}
    (hCallee : FitsFrom need .postfixed xs (.name callee))
    (hArgs : FitsFrom other .items ys (.array args)) :
    FitsFrom (max need other) .postfixed (xs ++ .symbol .lParen :: ys ++ [.symbol .rParen])
      (.call callee args) := by
  rw [List.append_assoc]
  apply hCallee.snoc
  intro budget hBudget zs result hMore
  exact .call (hArgs budget hBudget .rParen) hMore

theorem fitsFrom_member {property : String} (h : FitsFrom need .postfixed xs e) :
    FitsFrom (max need 0) .postfixed (xs ++ [.symbol .dot, .ident property])
      (.member e property) := by
  apply h.snoc
  intro budget hBudget zs result hMore
  exact .member hMore

theorem fitsFrom_index {position : Expr} (h : FitsFrom need .postfixed xs e)
    (hPosition : FitsFrom other .expression ys position) :
    FitsFrom (max need other) .postfixed (xs ++ .symbol .lBracket :: ys ++ [.symbol .rBracket])
      (.index e position) := by
  rw [List.append_assoc]
  apply h.snoc
  intro budget hBudget zs result hMore
  simpa using Derives.index (hPosition budget hBudget) hMore

theorem fitsFrom_moreItems {elements : List Expr} (h : FitsFrom need .expression xs e)
    (hOthers : FitsFrom other .items ys (.array elements)) :
    FitsFrom (max need other) .items (xs ++ .symbol .comma :: ys) (.array (e :: elements)) := by
  intro budget hBudget closing
  have hMore := Derives.itemsMore (h budget (by omega)) (hOthers budget (by omega) closing)
  simpa using hMore

theorem fitsFrom_moreEntries {token : Token} {key : String} {fields : List (String × Expr)}
    (hKey : Key token key) (h : FitsFrom need .expression xs e)
    (hOthers : FitsFrom other .entries ys (.object fields)) :
    FitsFrom (max need other) .entries (token :: .symbol .colon :: xs ++ .symbol .comma :: ys)
      (.object ((key, e) :: fields)) := by
  intro budget hBudget
  have hMore := Derives.entriesMore (key_iff_key?.mp hKey) (h budget (by omega))
    (hOthers budget (by omega))
  simpa using hMore

end Productions

theorem Derivation.fitsFrom {category : Nonterminal} {e : Expr} (d : Derivation category e) :
    ∃ need, FitsFrom need category d.spelling e := by
  induction d with
  | simple d ih =>
    obtain ⟨need, hLevel⟩ := ih.choose_spec.level
    refine ⟨need + 1, fun budget hBudget => ?_⟩
    obtain ⟨below, rfl⟩ : ∃ below, budget = below + 1 := ⟨budget - 1, by omega⟩
    exact .single (hLevel below (by omega))
  | conditional condition yes no ihCondition ihYes ihNo =>
    obtain ⟨need, hCondition⟩ := ihCondition.choose_spec.level
    obtain ⟨needYes, hYes⟩ := ihYes
    obtain ⟨needNo, hNo⟩ := ihNo
    exact ⟨_, fitsFrom_conditional hCondition hYes hNo⟩
  | single hCount d ih =>
    obtain ⟨need, hLevel⟩ := ih.choose_spec.level
    exact ⟨need, 0, fun budget hBudget _ _ hChain => .level hCount (hLevel budget hBudget) hChain⟩
  | operation sign hOperation left right ihLeft ihRight =>
    obtain ⟨needLeft, hLeft⟩ := ihLeft
    obtain ⟨needRight, hRight⟩ := ihRight.choose_spec.level
    exact ⟨_, fitsFrom_operation hOperation hLeft hRight⟩
  | signed sign hSign d ih =>
    obtain ⟨need, hLevel⟩ := ih
    refine ⟨need + 1, fun budget hBudget => ?_⟩
    obtain ⟨below, rfl⟩ : ∃ below, budget = below + 1 := ⟨budget - 1, by omega⟩
    exact .unary (unaryOp?_of_sign hSign) (hLevel below (by omega))
  | unsigned d ih =>
    obtain ⟨need, used, hSuffixes⟩ := ih
    refine ⟨need + used, fun budget hBudget => ?_⟩
    have hEnd := hSuffixes (budget - used) (by omega) [] _ .suffixesEnd
    rwa [List.append_nil, Nat.sub_add_cancel (by omega)] at hEnd
  | call callee args ihCallee ihArgs =>
    obtain ⟨needCallee, hCallee⟩ := ihCallee
    obtain ⟨needArgs, hArgs⟩ := ihArgs
    exact ⟨_, fitsFrom_call hCallee hArgs⟩
  | member property target ih =>
    obtain ⟨need, hTarget⟩ := ih
    exact ⟨_, fitsFrom_member hTarget⟩
  | index target position ihTarget ihPosition =>
    obtain ⟨needTarget, hTarget⟩ := ihTarget
    obtain ⟨needPosition, hPosition⟩ := ihPosition
    exact ⟨_, fitsFrom_index hTarget hPosition⟩
  | alone d ih =>
    obtain ⟨need, hPrimary⟩ := ih
    exact ⟨need, 0, fun budget hBudget _ _ hMore => .postfixed (hPrimary budget hBudget) hMore⟩
  | number value => exact ⟨0, fun _ _ => .number⟩
  | string text => exact ⟨0, fun _ _ => .string⟩
  | word name hWord =>
    obtain rfl := word_iff_atom.mp hWord
    exact ⟨0, fun _ _ => .ident⟩
  | group d ih =>
    obtain ⟨need, h⟩ := ih
    exact ⟨need, fun budget hBudget => .group (h budget hBudget)⟩
  | array d ih =>
    obtain ⟨need, h⟩ := ih
    exact ⟨need, fun budget hBudget => .array (h budget hBudget .rBracket)⟩
  | object d ih =>
    obtain ⟨need, h⟩ := ih
    exact ⟨need, fun budget hBudget => .object (h budget hBudget)⟩
  | noItem => exact ⟨0, fun _ _ _ => .itemsEnd⟩
  | lastItem d ih =>
    obtain ⟨need, h⟩ := ih
    exact ⟨need, fun budget hBudget _ => .itemsLast (h budget hBudget)⟩
  | moreItems d others ih ihOthers =>
    obtain ⟨need, h⟩ := ih
    obtain ⟨needOthers, hOthers⟩ := ihOthers
    exact ⟨_, fitsFrom_moreItems h hOthers⟩
  | noEntry => exact ⟨0, fun _ _ => .entriesEnd⟩
  | lastEntry token hKey d ih =>
    obtain ⟨need, h⟩ := ih
    exact ⟨need, fun budget hBudget => .entriesLast (key_iff_key?.mp hKey) (h budget hBudget)⟩
  | moreEntries token hKey d others ih ihOthers =>
    obtain ⟨need, h⟩ := ih
    obtain ⟨needOthers, hOthers⟩ := ihOthers
    exact ⟨_, fitsFrom_moreEntries hKey h hOthers⟩

end ParamTree.Grammar
