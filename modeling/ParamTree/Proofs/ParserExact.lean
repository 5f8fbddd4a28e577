import ParamTree.Proofs.ParserLimit
import ParamTree.Proofs.Spelling
import ParamTree.Proofs.Unambiguity

/-!
# The parser and the grammar

A text is accepted as an expression only if a derivation of the expression spells its tokens, and
what a derivation spells is accepted or nested too deeply. Main statement: `Expr.ofText_exact`.
-/

namespace ParamTree

open Grammar ParamTree.Parser Lexer

/-- Nothing but the limit of nesting keeps the parser from the expression of a derivation. -/
theorem Grammar.Derivation.ofTokens {e : Expr} (d : Derivation .expression e) {used : List Located}
    {last : Located} (hUsed : kinds used = d.spelling) (hLast : last.token = .eof) :
    Within (Expr.ofTokens (used ++ [last])) (.ok e) := by
  obtain ⟨need, hDerives⟩ := d.fitsFrom
  have hStops : Stops 7 (peek [last]) := by
    change Stops 7 last.token
    rw [hLast]
    exact stops_of_rank_none rfl 7
  have hLarge : expression operand (max need Expr.maxDepth) (used ++ [last]) = .ok (e, [last]) :=
    (hDerives _ (Nat.le_max_left _ _)).accepted hUsed hStops
  have hSmall := expression_growsBelow (operand_growsBelow Expr.maxDepth) Expr.maxDepth
    (Nat.lt_succ_self _) _ (Nat.le_max_right need Expr.maxDepth) (used ++ [last])
  rw [hLarge] at hSmall
  obtain hOk | ⟨offset, hError⟩ := hSmall
  · refine .inl ?_
    change (expression operand Expr.maxDepth (used ++ [last]) >>= _) = _
    rw [hOk]
    exact if_pos hLast
  · refine .inr ⟨offset, ?_⟩
    change (expression operand Expr.maxDepth (used ++ [last]) >>= _) = _
    rw [hError]
    rfl

/-- The parser and the grammar agree on every text that has tokens, and the grammar is not
ambiguous: a derivation is determined by the tokens alone. -/
theorem Expr.ofText_exact {text : String} {located : List Located}
    (hTokens : Token.ofText text = .ok located) :
    ∃ tokens, kinds located = tokens ++ [.eof] ∧
      (∀ e, Expr.ofText text = .ok e → ∃ d : Derivation .expression e, d.spelling = tokens) ∧
      (∀ e (d : Derivation .expression e), d.spelling = tokens →
        Expr.ofText text = .ok e ∨ ∃ error, Expr.ofText text = .error error ∧
          error.fault = .nestedTooDeeply ∧ error.fault.message = "expression nested too deeply") ∧
      ∀ d d' : (e : Expr) × Derivation .expression e,
        d.2.spelling = tokens → d'.2.spelling = tokens → d = d' := by
  obtain ⟨used, last, rfl, hLast, hSpells⟩ := spells_of_tokensFrom hTokens
  have hParsed : Expr.ofText text = Expr.ofTokens (used ++ [last]) := by
    rw [Expr.ofText, hTokens]
    rfl
  have hUsed := eof_notMem_of_spells hSpells
  refine ⟨kinds used, by simp [hLast], ?_, ?_, ?_⟩
  · intro e h
    rw [hParsed] at h
    exact ((ofTokens_eq_ok_iff hUsed hLast e).mp h).spelledAs
  · intro e d hSpelling
    rw [hParsed]
    obtain hOk | ⟨offset, hError⟩ := d.ofTokens hSpelling.symm hLast
    · exact .inl hOk
    · exact .inr ⟨_, hError, rfl, rfl⟩
  · rintro ⟨e, d⟩ ⟨f, d'⟩ hFirst hSecond
    exact d.unique d' (hFirst.trans hSecond.symm)

/-- An expression without operators between operands. -/
def Grammar.Derivation.ofOperand {e : Expr} (d : Derivation (.level 0) e) :
    Derivation .expression e :=
  .simple (.single (by decide) (.single (by decide) (.single (by decide)
    (.single (by decide) (.single (by decide) (.single (by decide) d))))))

theorem Expr.ofText_exact_signed_index :
    let located : List Located := [⟨.symbol .minus, 0⟩, ⟨.ident "a", 1⟩, ⟨.symbol .dot, 2⟩,
      ⟨.ident "b", 3⟩, ⟨.symbol .lBracket, 4⟩, ⟨.number (.ofNat 1), 5⟩, ⟨.symbol .rBracket, 6⟩,
      ⟨.eof, 7⟩]
    let e : Expr := .unary .neg (.index (.member (.name "a") "b") (.literal (.number (.ofNat 1))))
    Token.ofText "-a.b[1]" = .ok located ∧ Expr.ofText "-a.b[1]" = .ok e ∧
    ∃ tokens, kinds located = tokens ++ [.eof] ∧
      (∃ d : Derivation .expression e, d.spelling = tokens) ∧
      ∀ d d' : (e : Expr) × Derivation .expression e,
        d.2.spelling = tokens → d'.2.spelling = tokens → d = d' := by
  intro located e
  have hTokens : Token.ofText "-a.b[1]" = .ok located := by
    apply Except.eq_ok_of_toOption
    decide +kernel
  let a : Derivation .postfixed (.name "a") := .alone (.word "a" (.name (by decide)))
  let position : Derivation .expression (.literal (.number (.ofNat 1))) :=
    .ofOperand (.unsigned (.alone (.number (.ofNat 1))))
  let d : Derivation .expression e :=
    .ofOperand (.signed .minus .neg (.unsigned (.index (.member "b" a) position)))
  obtain ⟨tokens, hKinds, -, hAccepted, hUnique⟩ := ofText_exact hTokens
  have hCut : d.spelling ++ [.eof] = tokens ++ [.eof] := hKinds
  have hSpelling := List.append_cancel_right hCut
  have hShallow : ∃ f, Expr.ofText "-a.b[1]" = .ok f := Except.exists_eq_ok (by decide +kernel)
  obtain hParsed | ⟨error, hError, -⟩ := hAccepted e d hSpelling
  · exact ⟨hTokens, hParsed, tokens, hKinds, ⟨d, hSpelling⟩, hUnique⟩
  · obtain ⟨f, hParsed⟩ := hShallow
    cases hParsed.symm.trans hError

end ParamTree
