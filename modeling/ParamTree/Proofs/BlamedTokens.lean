import Mathlib.Data.List.Nodup
import ParamTree.Proofs.Spelling

/-!
# Tokens that syntax errors name

A parser that stops at a token names it and gives the place where it starts. Where it has taken the
token already, it gives the place of the next one. Main statement: `Expr.error_names_token`.
-/

namespace ParamTree

/-! ### Places of tokens -/

/-- The last token marks the end, and no other one does. -/
inductive Ended : List Located → Prop where
  | last {located : Located} : located.token = .eof → Ended [located]
  | cons {located : Located} {rest : List Located} :
    located.token ≠ .eof → Ended rest → Ended (located :: rest)

theorem Ended.exists_cons {tokens : List Located} (h : Ended tokens) :
    ∃ located rest, tokens = located :: rest := by
  cases h with
  | last | cons => exact ⟨_, _, rfl⟩

theorem Ended.of_append {front rest : List Located} {located : Located}
    (h : Ended (front ++ located :: rest)) : Ended (located :: rest) := by
  induction front with
  | nil => exact h
  | cons first front ih =>
    rw [List.cons_append] at h
    cases hTail : front ++ located :: rest with
    | nil => simp at hTail
    | cons second others =>
      rw [hTail] at h ih
      cases h with
      | cons _ hRest => exact ih hRest

/-- Every token starts behind the one before it. -/
def InOrder (tokens : List Located) : Prop :=
  tokens.Pairwise fun first second => first.offset < second.offset

theorem InOrder.eq_of_offset {tokens : List Located} (h : InOrder tokens) {first second : Located}
    (hFirst : first ∈ tokens) (hSecond : second ∈ tokens) (hSame : first.offset = second.offset) :
    first = second := by
  have hNodup : (tokens.map Located.offset).Nodup :=
    List.pairwise_map.mpr (h.imp fun hLess => Nat.ne_of_lt hLess)
  exact List.inj_on_of_nodup_map hNodup hFirst hSecond hSame

theorem Text.width_le_of_suffix {text whole : List Char} (h : text <:+ whole) :
    width text ≤ width whole := by
  obtain ⟨front, rfl⟩ := h
  rw [width_append]
  exact Nat.le_add_left _ _

namespace Lexer

variable {total : Nat} {text : List Char} {tokens : List Located}

theorem ended_of_tokensFrom (h : tokensFrom total text = .ok tokens) : Ended tokens := by
  fun_induction tokensFrom total text generalizing tokens with
  | case1 =>
    cases h
    exact .last rfl
  | case2 => cases h
  | case3 text c rest hText token after hToken ih =>
    obtain ⟨others, hOthers, rfl⟩ := map_eq_ok h
    refine .cons ?_ (ih hOthers)
    rintro rfl
    cases lexeme_of_readToken hToken

theorem inOrder_of_tokensFrom (h : tokensFrom total text = .ok tokens)
    (hTotal : Text.width text ≤ total) :
    InOrder tokens ∧ ∀ located ∈ tokens, total - Text.width text ≤ located.offset := by
  fun_induction tokensFrom total text generalizing tokens with
  | case1 =>
    cases h
    exact ⟨List.pairwise_singleton _ _, List.forall_mem_singleton.mpr (Nat.sub_le _ _)⟩
  | case2 => cases h
  | case3 text c rest hText token after hToken ih =>
    obtain ⟨others, hOthers, rfl⟩ := map_eq_ok h
    -- Every token takes a character at least, so the next one starts farther on.
    have hAfter : Text.width after ≤ Text.width rest :=
      Text.width_le_of_suffix (suffix_of_readToken hToken)
    have hFront : Text.width (text.dropWhile Text.isBlank) ≤ Text.width text :=
      Text.width_le_of_suffix (List.dropWhile_suffix _)
    have hSize := c.utf8Size_pos
    rw [hText] at hFront
    rw [Text.width_cons] at hFront ⊢
    obtain ⟨hOrder, hPlaces⟩ := ih hOthers (by omega)
    constructor
    · refine List.pairwise_cons.mpr ⟨?_, hOrder⟩
      intro located hMem
      have hPlace := hPlaces located hMem
      dsimp only
      omega
    · refine List.forall_mem_cons.mpr ⟨?_, ?_⟩
      · dsimp only
        omega
      · intro located hMem
        have hPlace := hPlaces located hMem
        omega

end Lexer

/-! ### Errors of parsers -/

/-- The messages for a token that the parser has taken before it looks at it. -/
def Expected.isLate : Expected → Bool
  | objectKey => true
  | propertyName => true
  | _ => false

namespace SyntaxFault

/-- The token that the message names as unexpected or as found. -/
def named? : SyntaxFault → Option Token
  | unexpected token => some token
  | unexpectedAfter token => some token
  | expected _ found => some found
  | _ => none

def isLate : SyntaxFault → Bool
  | expected what _ => what.isLate
  | _ => false

end SyntaxFault

namespace Ended

variable {tokens : List Located}

theorem advance (h : Ended tokens) :
    Ended (Parser.advance tokens) ∧ Parser.advance tokens <:+ tokens := by
  cases h with
  | last hToken =>
    rw [Parser.advance, if_pos hToken]
    exact ⟨.last hToken, List.suffix_rfl⟩
  | cons hToken hRest =>
    rw [Parser.advance, if_neg hToken]
    exact ⟨hRest, List.suffix_cons _ _⟩

theorem of_eat? {sign : Symbol} {behind : List Located} (h : Ended tokens)
    (hEat : Parser.eat? sign tokens = some behind) : Ended behind ∧ behind <:+ tokens := by
  obtain ⟨located, rfl, hToken⟩ := Parser.exists_of_eat? hEat
  cases h with
  | last hLast => cases hToken.symm.trans hLast
  | cons _ hRest => exact ⟨hRest, List.suffix_cons _ _⟩

end Ended

namespace Parser

variable {α β : Type} {tokens later : List Located} {rest : α → List Located}

/-- If the error names a token, it is one of these, and the place is that of the token or, if it has
been taken, of what then comes next. -/
def Blames (tokens : List Located) (error : SyntaxError) : Prop :=
  ∀ token, error.fault.named? = some token →
    ∃ found behind, found :: behind <:+ tokens ∧ found.token = token ∧
      error.offset =
        if error.fault.isLate then offset (advance (found :: behind)) else found.offset

/-- A success leaves an end of the tokens, and a failure blames one of them. -/
def Tracks (tokens : List Located) (rest : α → List Located) : Except SyntaxError α → Prop
  | .ok value => Ended (rest value) ∧ rest value <:+ tokens
  | .error error => Blames tokens error

theorem Tracks.behind {result : Except SyntaxError α} (h : Tracks later rest result)
    (hLater : later <:+ tokens) : Tracks tokens rest result := by
  cases result with
  | ok value => exact ⟨h.1, h.2.trans hLater⟩
  | error error =>
    intro token hNamed
    obtain ⟨found, behind, hFound, hToken, hOffset⟩ := h token hNamed
    exact ⟨found, behind, hFound.trans hLater, hToken, hOffset⟩

theorem Tracks.bind {result : Except SyntaxError α} {f : α → Except SyntaxError β}
    {restBehind : β → List Located} (h : Tracks tokens rest result)
    (hf : ∀ value, Ended (rest value) → Tracks (rest value) restBehind (f value)) :
    Tracks tokens restBehind (result >>= f) := by
  cases result with
  | ok value => exact (hf value h.1).behind h.2
  | error error => exact h

theorem tracks_ok {value : α} (h : Ended (rest value)) : Tracks (rest value) rest (.ok value) :=
  ⟨h, List.suffix_rfl⟩

theorem tracks_failAt (h : Ended tokens) {fault : SyntaxFault}
    (hFault : fault.named? = none ∨ fault.named? = some (peek tokens))
    (hLate : fault.isLate = false) : Tracks tokens rest (failAt tokens fault) := by
  intro token (hNamed : fault.named? = some token)
  obtain hNone | hPeek := hFault
  · cases hNone.symm.trans hNamed
  cases hPeek.symm.trans hNamed
  rw [hLate]
  -- Tokens that end are not empty, so the first of them is the one that was looked at.
  cases h with
  | last | cons => exact ⟨_, _, List.suffix_rfl, rfl, rfl⟩

/-- The token has been taken, unless it is the end. -/
theorem tracks_failLate (h : Ended tokens) {what : Expected} (hLate : what.isLate = true) :
    Tracks tokens rest (failAt (advance tokens) (.expected what (peek tokens))) := by
  rintro token ⟨rfl⟩
  cases h with
  | last | cons => exact ⟨_, _, List.suffix_rfl, rfl, (if_pos hLate).symm⟩

theorem tracks_expect (h : Ended tokens) (sign : Symbol) {what : Expected}
    (hLate : what.isLate = false) : Tracks tokens id (expect sign what tokens) := by
  rw [expect]
  split
  · rename_i hEat
    exact h.of_eat? hEat
  · exact tracks_failAt h (.inr rfl) hLate

/-- Tokens that end stay so, whatever the parser takes, and its errors blame them. -/
def Traceable (p : Parser α) : Prop :=
  ∀ ⦃tokens⦄, Ended tokens → Tracks tokens Prod.snd (p tokens)

theorem traceable_tooDeep : Traceable (tooDeep : Parser α) := by
  intro tokens h
  exact tracks_failAt h (.inl rfl) rfl

theorem traceable_items {item : Parser α} (h : Traceable item) (closing : Symbol) {what : Expected}
    (hLate : what.isLate = false) : Traceable (items item closing what) := by
  intro tokens hTokens
  -- The rest behind a comma is shorter, by the check that the recursion makes itself.
  induction hLength : tokens.length using Nat.strongRecOn generalizing tokens with
  | ind length ih =>
    rw [items]
    split
    · rename_i hEat
      exact hTokens.of_eat? hEat
    · apply (h hTokens).bind
      rintro ⟨first, rest⟩ hRest
      dsimp only
      split
      · exact (tracks_expect hRest closing hLate).bind fun _ hBehind => tracks_ok hBehind
      · rename_i behind hEat
        obtain ⟨hBehind, hSuffix⟩ := hRest.of_eat? hEat
        split
        · rename_i hShorter
          have hOthers := ih _ (hLength ▸ hShorter) hBehind rfl
          refine Tracks.behind ?_ hSuffix
          exact hOthers.bind fun _ hAfter => tracks_ok hAfter
        · exact (tracks_failAt hBehind (.inr rfl) rfl).behind hSuffix

section Nested

variable {nested : Parser Expr} (h : Traceable nested)
include h

theorem traceable_entry : Traceable (entry nested) := by
  intro tokens hTokens
  obtain ⟨hAdvanced, hSuffix⟩ := hTokens.advance
  rw [entry]
  split
  · exact tracks_failLate hTokens rfl
  · refine Tracks.behind ?_ hSuffix
    apply (tracks_expect hAdvanced .colon rfl).bind
    intro rest hRest
    exact (h hRest).bind fun _ hBehind => tracks_ok hBehind

theorem traceable_primary : Traceable (primary nested) := by
  intro tokens hTokens
  obtain ⟨hAdvanced, hSuffix⟩ := hTokens.advance
  rw [primary]
  split
  · exact ⟨hAdvanced, hSuffix⟩
  · exact ⟨hAdvanced, hSuffix⟩
  · exact ⟨hAdvanced, hSuffix⟩
  · refine Tracks.behind ?_ hSuffix
    apply (h hAdvanced).bind
    rintro ⟨inner, rest⟩ hRest
    exact (tracks_expect hRest .rParen rfl).bind fun _ hBehind => tracks_ok hBehind
  · refine Tracks.behind ?_ hSuffix
    exact (traceable_items h .rBracket rfl hAdvanced).bind fun _ hBehind => tracks_ok hBehind
  · refine Tracks.behind ?_ hSuffix
    exact (traceable_items (traceable_entry h) .rBrace rfl hAdvanced).bind
      fun _ hBehind => tracks_ok hBehind
  · exact tracks_failAt hTokens (.inr rfl) rfl

theorem traceable_suffix (target : Expr) : Traceable (suffix nested target) := by
  intro tokens hTokens
  obtain ⟨hAdvanced, hSuffix⟩ := hTokens.advance
  rw [suffix.eq_def]
  dsimp only
  split
  · split
    · refine Tracks.behind ?_ hSuffix
      exact (traceable_items h .rParen rfl hAdvanced).bind fun _ hBehind => tracks_ok hBehind
    · exact tracks_failAt hTokens (.inl rfl) rfl
  split
  · refine Tracks.behind ?_ hSuffix
    split
    · exact hAdvanced.advance
    · exact tracks_failLate hAdvanced rfl
  · refine Tracks.behind ?_ hSuffix
    apply (h hAdvanced).bind
    rintro ⟨index, rest⟩ hRest
    exact (tracks_expect hRest .rBracket rfl).bind fun _ hBehind => tracks_ok hBehind

end Nested

theorem traceable_conditional {condition branch : Parser Expr} (hCondition : Traceable condition)
    (hBranch : Traceable branch) : Traceable (conditional condition branch) := by
  intro tokens hTokens
  apply (hCondition hTokens).bind
  rintro ⟨e, rest⟩ hRest
  dsimp only
  split
  · exact tracks_ok hRest
  · rename_i behind hEat
    obtain ⟨hBehind, hSuffix⟩ := hRest.of_eat? hEat
    refine Tracks.behind ?_ hSuffix
    apply (hBranch hBehind).bind
    rintro ⟨yes, after⟩ hAfter
    apply (tracks_expect hAfter .colon rfl).bind
    intro last hLast
    exact (hBranch hLast).bind fun _ hNo => tracks_ok hNo

def TraceableBelow (bound : Nat) (nested : Nat → Parser α) : Prop :=
  ∀ budget < bound, Traceable (nested budget)

theorem TraceableBelow.mono {nested : Nat → Parser α} {bound other : Nat}
    (h : TraceableBelow bound nested) (hLe : other ≤ bound) : TraceableBelow other nested :=
  fun budget hBudget => h budget (Nat.lt_of_lt_of_le hBudget hLe)

theorem traceable_suffixes {nested : Nat → Parser Expr} {budget : Nat}
    (h : TraceableBelow budget nested) (target : Expr) :
    Traceable (suffixes nested budget target) := by
  induction budget generalizing target with
  | zero =>
    intro tokens hTokens
    rw [suffixes]
    split
    · exact traceable_tooDeep hTokens
    · exact tracks_ok hTokens
  | succ budget ih =>
    intro tokens hTokens
    rw [suffixes]
    split
    · apply (traceable_suffix (h budget (Nat.lt_succ_self _)) target hTokens).bind
      rintro ⟨longer, rest⟩ hRest
      exact ih (h.mono (Nat.le_succ _)) longer hRest
    · exact tracks_ok hTokens

theorem traceable_postfixed {nested : Nat → Parser Expr} {budget : Nat}
    (h : TraceableBelow (budget + 1) nested) : Traceable (postfixed nested budget) := by
  intro tokens hTokens
  apply (traceable_primary (h budget (Nat.lt_succ_self _)) hTokens).bind
  rintro ⟨target, rest⟩ hRest
  exact traceable_suffixes (h.mono (Nat.le_succ _)) target hRest

theorem traceable_chain {operand : Nat → Parser Expr} {budget : Nat}
    (h : TraceableBelow budget operand) (operators : Operators) (left : Expr) :
    Traceable (chain operators operand budget left) := by
  induction budget generalizing left with
  | zero =>
    intro tokens hTokens
    obtain ⟨hAdvanced, hSuffix⟩ := hTokens.advance
    rw [chain]
    split
    · exact tracks_ok hTokens
    · exact (traceable_tooDeep hAdvanced).behind hSuffix
  | succ budget ih =>
    intro tokens hTokens
    obtain ⟨hAdvanced, hSuffix⟩ := hTokens.advance
    rw [chain]
    split
    · exact tracks_ok hTokens
    · refine Tracks.behind ?_ hSuffix
      apply (h budget (Nat.lt_succ_self _) hAdvanced).bind
      rintro ⟨right, rest⟩ hRest
      exact ih (h.mono (Nat.le_succ _)) _ hRest

theorem traceableBelow_level {operand : Nat → Parser Expr} {bound : Nat}
    (h : TraceableBelow bound operand) (operators : Operators) :
    TraceableBelow bound (level operand operators) := by
  intro budget hBudget tokens hTokens
  apply (h budget hBudget hTokens).bind
  rintro ⟨left, rest⟩ hRest
  exact traceable_chain (h.mono (Nat.le_of_lt hBudget)) operators left hRest

theorem traceableBelow_operation {operand : Nat → Parser Expr} {bound : Nat}
    (h : TraceableBelow bound operand) : TraceableBelow bound (operation operand) := by
  apply levelOf_induction (motive := fun _ => TraceableBelow bound) h _ (Nat.le_refl 6)
  intro _ operators nested _ hNested
  exact traceableBelow_level hNested operators

theorem traceableBelow_expression {operand : Nat → Parser Expr} {bound : Nat}
    (h : TraceableBelow bound operand) : TraceableBelow (bound + 1) (expression operand) := by
  intro budget
  induction budget with
  | zero => exact fun _ => traceable_tooDeep
  | succ budget ih =>
    intro hBudget
    have hOperation := traceableBelow_operation h budget (Nat.lt_of_succ_lt_succ hBudget)
    exact traceable_conditional hOperation (ih (Nat.lt_of_succ_lt hBudget))

theorem traceableBelow_operand (bound : Nat) : TraceableBelow bound operand := by
  -- An operand of a budget holds expressions of this budget, whose operands have smaller ones.
  induction bound with
  | zero => exact nofun
  | succ bound ih =>
    intro budget hBudget tokens hTokens
    obtain ⟨hAdvanced, hSuffix⟩ := hTokens.advance
    rw [operand_eq, operandStep]
    split
    · exact traceable_postfixed ((traceableBelow_expression ih).mono hBudget) hTokens
    · refine Tracks.behind ?_ hSuffix
      cases budget with
      | zero => exact traceable_tooDeep hAdvanced
      | succ budget =>
        exact (ih budget (Nat.lt_of_succ_lt_succ hBudget) hAdvanced).bind
          fun _ hBehind => tracks_ok hBehind

theorem traceable_expression (budget : Nat) : Traceable (expression operand budget) :=
  traceableBelow_expression (traceableBelow_operand budget) budget (Nat.lt_succ_self _)

end Parser

open ParamTree.Parser ParamTree.Lexer

theorem Expr.blames_of_ofTokens {tokens : List Located} {error : SyntaxError}
    (hTokens : Ended tokens) (h : Expr.ofTokens tokens = .error error) : Blames tokens error := by
  have hTracks := traceable_expression maxDepth hTokens
  rw [Expr.ofTokens] at h
  cases hResult : expression operand maxDepth tokens with
  | error other =>
    rw [hResult] at h hTracks
    cases h
    exact hTracks
  | ok result =>
    obtain ⟨e, rest⟩ := result
    rw [hResult] at h hTracks
    obtain ⟨hRest, hSuffix⟩ := hTracks
    have hEnd : Tracks rest (fun _ : Expr => rest) (.error error) := by
      rw [← h]
      change Tracks rest _ (if peek rest = .eof then .ok e else failAt rest _)
      split
      · exact ⟨hRest, List.suffix_rfl⟩
      · exact tracks_failAt hRest (.inr rfl) rfl
    exact hEnd.behind hSuffix

/-- A token of this description starts at the place. -/
def NamedAt (tokens : List Located) (token : Token) (offset : Nat) : Prop :=
  ∃ located ∈ tokens, located.token.describe = token.describe ∧ located.offset = offset

/-- A syntax error that names a token gives the place of such a token, unless the token has been
taken: then the place is that of the next token, and it is right only if this is described alike. -/
theorem Expr.error_names_token {text : String} {tokens : List Located} {error : SyntaxError}
    {token : Token} (hTokens : Token.ofText text = .ok tokens)
    (hError : Expr.ofText text = .error error) (hNamed : error.fault.named? = some token) :
    (error.fault.isLate = false ∨ token = .eof → NamedAt tokens token error.offset) ∧
    (error.fault.isLate = true → token ≠ .eof → ∃ front found next behind,
      tokens = front ++ found :: next :: behind ∧ found.token = token ∧
      error.offset = next.offset ∧
      (NamedAt tokens token error.offset ↔ next.token.describe = token.describe)) := by
  have hEnded := ended_of_tokensFrom hTokens
  have hInOrder := (inOrder_of_tokensFrom hTokens (Nat.le_refl _)).1
  have hParsed : Expr.ofTokens tokens = .error error := by
    rw [Expr.ofText, hTokens] at hError
    exact hError
  obtain ⟨found, behind, ⟨front, rfl⟩, rfl, hOffset⟩ :=
    Expr.blames_of_ofTokens hEnded hParsed token hNamed
  have hLast := hEnded.of_append
  constructor
  · intro hHere
    have hPlace : error.offset = found.offset := by
      rw [hOffset]
      split
      · rename_i hLate
        obtain hNot | hEof := hHere
        · cases hLate.symm.trans hNot
        · rw [advance, if_pos hEof]
          rfl
      · rfl
    exact ⟨found, by simp, rfl, hPlace.symm⟩
  · intro hLate hNotEof
    rw [if_pos hLate, advance, if_neg hNotEof] at hOffset
    cases hLast with
    | last hEof => exact (hNotEof hEof).elim
    | cons _ hBehind =>
      obtain ⟨next, others, rfl⟩ := hBehind.exists_cons
      have hNext : error.offset = next.offset := hOffset
      refine ⟨front, found, next, others, rfl, rfl, hNext, ?_⟩
      rw [hNext]
      constructor
      · rintro ⟨located, hMem, hDescribed, hPlace⟩
        rwa [hInOrder.eq_of_offset hMem (by simp) hPlace] at hDescribed
      · intro hDescribed
        exact ⟨next, by simp, hDescribed, rfl⟩

/-- A second operand without an operator is named at its own place. -/
theorem Expr.error_names_token_two_operands :
    let tokens : List Located := [⟨.ident "a", 0⟩, ⟨.string "b", 2⟩, ⟨.eof, 5⟩]
    let error : SyntaxError := ⟨.unexpectedAfter (.string "b"), 2⟩
    Token.ofText "a 'b'" = .ok tokens ∧ Expr.ofText "a 'b'" = .error error ∧
    error.fault.named? = some (.string "b") ∧ NamedAt tokens (.string "b") 2 := by
  intro tokens error
  have hTokens : Token.ofText "a 'b'" = .ok tokens := by
    apply Except.eq_ok_of_toOption
    decide +kernel
  have hError : Expr.ofText "a 'b'" = .error error := by
    rw [Expr.ofText, hTokens]
    rfl
  exact ⟨hTokens, hError, rfl, (Expr.error_names_token hTokens hError rfl).1 (.inl rfl)⟩

/-- The sign behind the dot has been taken, so the place is that of the name behind it. -/
theorem Expr.error_names_token_elsewhere :
    let tokens : List Located :=
      [⟨.ident "a", 0⟩, ⟨.symbol .dot, 1⟩, ⟨.symbol .plus, 2⟩, ⟨.ident "b", 3⟩, ⟨.eof, 4⟩]
    let error : SyntaxError := ⟨.expected .propertyName (.symbol .plus), 3⟩
    Token.ofText "a.+b" = .ok tokens ∧ Expr.ofText "a.+b" = .error error ∧
    error.fault.message = "expected property name after `.`, found Plus" ∧
    ¬NamedAt tokens (.symbol .plus) 3 := by
  intro tokens error
  have hTokens : Token.ofText "a.+b" = .ok tokens := by
    apply Except.eq_ok_of_toOption
    decide +kernel
  have hError : Expr.ofText "a.+b" = .error error := by
    rw [Expr.ofText, hTokens]
    rfl
  refine ⟨hTokens, hError, by decide, ?_⟩
  rintro ⟨located, hMem, hDescribed, hPlace⟩
  simp only [tokens, List.mem_cons, List.not_mem_nil, or_false] at hMem
  obtain rfl | rfl | rfl | rfl | rfl := hMem
  · cases hPlace
  · cases hPlace
  · cases hPlace
  · revert hDescribed
    decide
  · cases hPlace

end ParamTree
