import ParamTree.Proofs.Lexeme
import ParamTree.Proofs.ParserComplete

/-!
# How texts spell tokens

A text spells tokens one after the other, with blanks in between. The places of the tokens do not
matter to a parser. Main statement: `Expr.ofText_eq_ok_iff`, a text is accepted if and only if it
spells the tokens of a derivation.
-/

namespace ParamTree

open Grammar ParamTree.Parser

namespace Lexer

/-- The text spells the tokens. Blanks may stand before each of them and behind the last one. -/
inductive Spells : List Char → List Token → Prop where
  | blanks {text} : text.dropWhile Text.isBlank = [] → Spells text []
  | token {text c rest token after tokens} :
    text.dropWhile Text.isBlank = c :: rest → readToken c rest = .ok (token, after) →
    Spells after tokens → Spells text (token :: tokens)

theorem Spells.blank {text : List Char} {tokens : List Token} {c : Char} (h : Spells text tokens)
    (hBlank : Text.isBlank c = true) : Spells (c :: text) tokens := by
  have hDrop : (c :: text).dropWhile Text.isBlank = text.dropWhile Text.isBlank :=
    List.dropWhile_cons_of_pos hBlank
  cases h with
  | blanks hText => exact .blanks (hDrop.trans hText)
  | token hText hToken hOthers => exact .token (hDrop.trans hText) hToken hOthers

theorem spells_of_tokensFrom {total : Nat} {text : List Char} {located : List Located}
    (h : tokensFrom total text = .ok located) :
    ∃ used last, located = used ++ [last] ∧ last.token = .eof ∧ Spells text (kinds used) := by
  fun_induction tokensFrom total text generalizing located with
  | case1 text hText =>
    cases h
    exact ⟨[], ⟨.eof, total⟩, rfl, rfl, .blanks hText⟩
  | case2 => cases h
  | case3 text c rest hText token after hToken ih =>
    obtain ⟨others, hOthers, rfl⟩ := map_eq_ok h
    obtain ⟨used, last, rfl, hLast, hSpells⟩ := ih hOthers
    exact ⟨_ :: used, last, rfl, hLast, .token hText hToken hSpells⟩

theorem tokensFrom_blanks {text : List Char} (hText : text.dropWhile Text.isBlank = [])
    (total : Nat) : tokensFrom total text = .ok [⟨.eof, total⟩] := by
  rw [tokensFrom]
  split
  · rfl
  · rename_i hCons
    rw [hText] at hCons
    cases hCons

theorem tokensFrom_token {text rest after : List Char} {c : Char} {token : Token}
    (hText : text.dropWhile Text.isBlank = c :: rest)
    (hToken : readToken c rest = .ok (token, after)) (total : Nat) :
    tokensFrom total text =
      (tokensFrom total after).map (⟨token, total - Text.width (c :: rest)⟩ :: ·) := by
  rw [tokensFrom]
  split
  · rename_i hNil
    rw [hText] at hNil
    cases hNil
  · rename_i hCons
    rw [hText] at hCons
    cases hCons
    split
    · rename_i hError
      rw [hToken] at hError
      cases hError
    · rename_i hOk
      rw [hToken] at hOk
      cases hOk
      rfl

theorem tokensFrom_of_spells {text : List Char} {tokens : List Token} (h : Spells text tokens)
    (total : Nat) :
    ∃ used last, tokensFrom total text = .ok (used ++ [last]) ∧ kinds used = tokens ∧
      last.token = .eof := by
  induction h with
  | blanks hText => exact ⟨[], ⟨.eof, total⟩, tokensFrom_blanks hText total, rfl, rfl⟩
  | token hText hToken _ ih =>
    obtain ⟨used, last, hOthers, rfl, hLast⟩ := ih
    rw [tokensFrom_token hText hToken, hOthers]
    exact ⟨_ :: used, last, rfl, rfl, hLast⟩

theorem Spells.unique {text : List Char} {tokens others : List Token} (h : Spells text tokens)
    (h' : Spells text others) : tokens = others := by
  obtain ⟨used, last, hTokens, rfl, -⟩ := tokensFrom_of_spells h 0
  obtain ⟨used', last', hTokens', rfl, -⟩ := tokensFrom_of_spells h' 0
  have hSame : used ++ [last] = used' ++ [last'] := Except.ok.inj (hTokens.symm.trans hTokens')
  exact congrArg kinds (List.append_inj_left' hSame rfl)

theorem eof_notMem_of_spells {text : List Char} {tokens : List Token} (h : Spells text tokens) :
    .eof ∉ tokens := by
  induction h with
  | blanks => exact List.not_mem_nil
  | token _ hToken _ ih =>
    rintro (_ | ⟨_, hMem⟩)
    · cases lexeme_of_readToken hToken
    · exact ih hMem

end Lexer

theorem eof_ne_of_key? {token : Token} {key : String} (h : key? token = some key) :
    Token.eof ≠ token := by
  rintro rfl
  cases h

theorem Grammar.Derives.eof_notMem {category : Category} {budget : Nat} {xs : List Token} {e : Expr}
    (h : Derives category budget xs e) : .eof ∉ xs := by
  induction h with
  | single _ ih => exact ih
  | conditional _ _ _ ihCondition ihYes ihNo => simp [ihCondition, ihYes, ihNo]
  | level _ _ _ ih ihOthers | chainMore _ _ _ ih ihOthers | postfixed _ _ ih ihOthers
  | call _ _ ih ihOthers | index _ _ ih ihOthers | itemsMore _ _ ih ihOthers =>
    simp [ih, ihOthers]
  | member _ ih | group _ ih | array _ ih | object _ ih | itemsLast _ ih => simp [ih]
  | chainEnd | suffixesEnd | number | string | ident | itemsEnd | entriesEnd => simp
  | unary hOp _ ih =>
    rintro (_ | ⟨_, hMem⟩)
    · cases hOp
    · exact ih hMem
  | entriesLast hKey _ ih => simp [ih, eof_ne_of_key? hKey]
  | entriesMore hKey _ _ ih ihOthers => simp [ih, ihOthers, eof_ne_of_key? hKey]

open Lexer

/-- Tokens with the end behind them are accepted as the expression that they derive. -/
theorem Grammar.ofTokens_eq_ok_iff {used : List Located} {last : Located}
    (hUsed : .eof ∉ kinds used) (hLast : last.token = .eof) (e : Expr) :
    Expr.ofTokens (used ++ [last]) = .ok e ↔ Derives .expression Expr.maxDepth (kinds used) e := by
  constructor
  · intro h
    obtain ⟨front, rest, hSplit, hEof, hDerives⟩ := derives_of_ofTokens h
    obtain ⟨others, rfl, hRest⟩ | ⟨others, rfl, rfl⟩ := List.append_eq_append_iff.mp hSplit
    · cases others with
      | nil => rwa [List.append_nil] at hDerives
      | cons located others =>
        obtain ⟨rfl, -⟩ := List.cons.inj hRest
        refine absurd ?_ hDerives.eof_notMem
        simp [hLast]
    · cases others with
      | nil => rwa [List.append_nil]
      | cons located others =>
        have hMem : located.token ∈ kinds (front ++ located :: others) := by simp
        exact absurd (hEof ▸ hMem) hUsed
  · exact fun h => ofTokens_of_derives h hLast

/-- A text is accepted as the expression that its tokens derive. -/
theorem Expr.ofText_eq_ok_iff (text : String) (e : Expr) :
    Expr.ofText text = .ok e ↔
      ∃ tokens, Spells text.toList tokens ∧ Derives .expression Expr.maxDepth tokens e := by
  constructor
  · intro h
    obtain ⟨located, hTokens, hParsed⟩ := Except.exists_of_bind_eq_ok h
    obtain ⟨used, last, rfl, hLast, hSpells⟩ := spells_of_tokensFrom hTokens
    exact ⟨_, hSpells, (ofTokens_eq_ok_iff (eof_notMem_of_spells hSpells) hLast e).mp hParsed⟩
  · rintro ⟨tokens, hSpells, hDerives⟩
    obtain ⟨used, last, hTokens, rfl, hEof⟩ := tokensFrom_of_spells hSpells (Text.width text.toList)
    change (Lexer.tokensFrom _ _ >>= Expr.ofTokens) = _
    rw [hTokens]
    exact ofTokens_of_derives hDerives hEof

end ParamTree
