import ParamTree.Proofs.Grammar

/-!
# Balanced brackets

How deep in brackets one stands behind each token. Main statement: `Derives.closed`, the tokens of
an expression close exactly the brackets that they open, none before it is opened.
-/

namespace ParamTree.Grammar

/-- The depth behind a token, if it closes nothing that was not opened. -/
def depthBehind? (depth : Nat) : Token → Option Nat
  | .symbol .lParen | .symbol .lBracket | .symbol .lBrace => some (depth + 1)
  | .symbol .rParen | .symbol .rBracket | .symbol .rBrace =>
    if depth = 0 then none else some (depth - 1)
  | _ => some depth

def Leads (before : Nat) (tokens : List Token) (behind : Nat) : Prop :=
  tokens.foldlM depthBehind? before = some behind

theorem leads_nil (depth : Nat) : Leads depth [] depth := rfl

theorem leads_cons {before middle behind : Nat} {token : Token} {tokens : List Token}
    (hToken : depthBehind? before token = some middle) (h : Leads middle tokens behind) :
    Leads before (token :: tokens) behind := by
  rw [Leads, List.foldlM_cons, hToken]
  exact h

theorem exists_of_leads_cons {before behind : Nat} {token : Token} {tokens : List Token}
    (h : Leads before (token :: tokens) behind) :
    ∃ middle, depthBehind? before token = some middle ∧ Leads middle tokens behind := by
  rw [Leads, List.foldlM_cons] at h
  exact Option.bind_eq_some_iff.mp h

theorem leads_append {before middle behind : Nat} {tokens others : List Token}
    (h : Leads before tokens middle) (hOthers : Leads middle others behind) :
    Leads before (tokens ++ others) behind := by
  rw [Leads, List.foldlM_append, h]
  exact hOthers

theorem depthBehind?_closing {closing : Symbol} (h : closes closing = true) (depth : Nat) :
    depthBehind? (depth + 1) (.symbol closing) = some depth := by
  cases closing <;> first | rfl | cases h

theorem leads_closing {closing : Symbol} (h : closes closing = true) (depth : Nat) :
    Leads (depth + 1) [.symbol closing] depth :=
  leads_cons (depthBehind?_closing h depth) (leads_nil depth)

theorem depthBehind?_of_joins {number : Nat} {sign : Symbol} {join : Expr → Expr → Expr}
    (h : Joins number sign join) (depth : Nat) : depthBehind? depth (.symbol sign) = some depth := by
  have hRank := rank_of_joins h
  cases sign <;> first | rfl | cases hRank

theorem depthBehind?_of_unaryOp? {token : Token} {op : UnaryOp}
    (h : Parser.unaryOp? token = some op) (depth : Nat) :
    depthBehind? depth token = some depth := by
  unfold Parser.unaryOp? at h
  split at h
  · rfl
  · rfl
  · rfl
  · cases h

theorem depthBehind?_of_key? {token : Token} {key : String} (h : Parser.key? token = some key)
    (depth : Nat) : depthBehind? depth token = some depth := by
  unfold Parser.key? at h
  split at h
  · rfl
  · rfl
  · rfl
  · cases h

/-- What the tokens of a category do to the depth. Lists end with the bracket that closes them. -/
def Closed : Category → List Token → Prop
  | .items closing, xs => closes closing = true → ∀ depth, Leads (depth + 1) xs depth
  | .entries, xs => ∀ depth, Leads (depth + 1) xs depth
  | _, xs => ∀ depth, Leads depth xs depth

theorem Derives.closed {category : Category} {budget : Nat} {xs : List Token} {e : Expr}
    (h : Derives category budget xs e) : Closed category xs := by
  induction h with
  | single _ ih => exact ih
  | conditional _ _ _ ihCondition ihYes ihNo =>
    intro depth
    apply leads_append
    · exact leads_append (ihCondition depth) (leads_cons rfl (ihYes depth))
    · exact leads_cons rfl (ihNo depth)
  | level _ _ _ ih ihOthers | postfixed _ _ ih ihOthers =>
    intro depth
    exact leads_append (ih depth) (ihOthers depth)
  | chainEnd | suffixesEnd => exact leads_nil
  | chainMore hJoins _ _ ihRight ihOthers =>
    intro depth
    apply leads_cons (depthBehind?_of_joins hJoins depth)
    exact leads_append (ihRight depth) (ihOthers depth)
  | unary hOp _ ih =>
    intro depth
    exact leads_cons (depthBehind?_of_unaryOp? hOp depth) (ih depth)
  | call _ _ ihArgs ihOthers =>
    intro depth
    apply leads_cons rfl
    exact leads_append (ihArgs rfl depth) (ihOthers depth)
  | member _ ih =>
    intro depth
    exact leads_cons rfl (leads_cons rfl (ih depth))
  | index _ _ ihPosition ihOthers =>
    intro depth
    apply leads_cons rfl
    apply leads_append (ihPosition (depth + 1))
    exact leads_cons (depthBehind?_closing rfl depth) (ihOthers depth)
  | number | string | ident =>
    intro depth
    exact leads_cons rfl (leads_nil depth)
  | group _ ih =>
    intro depth
    apply leads_cons rfl
    exact leads_append (ih (depth + 1)) (leads_closing rfl depth)
  | array _ ih =>
    intro depth
    exact leads_cons rfl (ih rfl depth)
  | object _ ih =>
    intro depth
    exact leads_cons rfl (ih depth)
  -- Lists stand one deeper than what is around them, and their last bracket leads out.
  | itemsEnd =>
    intro hCloses depth
    exact leads_closing hCloses depth
  | itemsLast _ ih =>
    intro hCloses depth
    exact leads_append (ih (depth + 1)) (leads_closing hCloses depth)
  | itemsMore _ _ ih ihOthers =>
    intro hCloses depth
    apply leads_append (ih (depth + 1))
    exact leads_cons rfl (ihOthers hCloses depth)
  | entriesEnd =>
    intro depth
    exact leads_closing rfl depth
  | entriesLast hKey _ ih =>
    intro depth
    apply leads_cons (depthBehind?_of_key? hKey (depth + 1))
    apply leads_cons rfl
    exact leads_append (ih (depth + 1)) (leads_closing rfl depth)
  | entriesMore hKey _ _ ih ihOthers =>
    intro depth
    apply leads_cons (depthBehind?_of_key? hKey (depth + 1))
    apply leads_cons rfl
    apply leads_append (ih (depth + 1))
    exact leads_cons rfl (ihOthers depth)

end ParamTree.Grammar
