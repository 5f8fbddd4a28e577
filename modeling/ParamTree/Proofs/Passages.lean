import ParamTree.Proofs.ParserExact
import ParamTree.Proofs.TokenEnds

/-!
# Passages put together

A text that is put together from texts of expressions, with signs and blanks between them, is a
passage with the expression put together from theirs. If it is accepted at all, it is accepted as
that expression. Main statements: `Passage.eq_of_ofText` and one rule for each way to put passages
together.
-/

namespace ParamTree.Grammar

open Lexer

/-- The text spells a derivation of the expression. -/
def Passage (category : Nonterminal) (text : List Char) (e : Expr) : Prop :=
  ∃ tokens, Spelled category tokens e ∧ Spells text tokens

namespace Passage

variable {text texts : List Char} {e left right : Expr}

theorem of_ofText {text : String} (h : Expr.ofText text = .ok e) :
    Passage .expression text.toList e := by
  obtain ⟨tokens, hSpells, hDerives⟩ := (Expr.ofText_eq_ok_iff text e).mp h
  exact ⟨tokens, hDerives.spelledAs, hSpells⟩

theorem eq_of_ofText {text : String} {other : Expr} (h : Passage .expression text.toList e)
    (hText : Expr.ofText text = .ok other) : other = e := by
  obtain ⟨tokens, ⟨d, hSpelling⟩, hSpells⟩ := h
  obtain ⟨tokens', ⟨d', hSpelling'⟩, hSpells'⟩ := of_ofText hText
  have hTokens : tokens' = tokens := hSpells'.unique hSpells
  have hSame := d'.unique d ((hSpelling'.trans hTokens).trans hSpelling.symm)
  exact congrArg Sigma.fst hSame

theorem group (h : Passage .expression text e) : Passage .primary ('(' :: (text ++ [')'])) e := by
  obtain ⟨_, ⟨d, rfl⟩, hSpells⟩ := h
  exact ⟨_, ⟨.group d, rfl⟩,
    spells_sign rfl rfl (hSpells.append (breaks_cons rfl _) (spells_sign rfl rfl (.blanks rfl)))⟩

theorem quoted {quote : Char} {content : List Char} (hQuote : isQuote quote = true)
    (h : ∀ c ∈ content, c ≠ quote ∧ c ≠ '\\') :
    Passage .primary (quote :: (content ++ [quote])) (.literal (.string (String.ofList content))) :=
  ⟨_, ⟨.string _, rfl⟩, spells_quoted hQuote h (.blanks rfl)⟩

theorem name {text : String} (h : IsName text) : Passage .primary text.toList (.name text) := by
  have hSpells := spells_identifier h.1 breaks_nil (.blanks rfl)
  rw [List.append_nil] at hSpells
  exact ⟨_, ⟨.word text (.name h.2), rfl⟩, hSpells⟩

theorem postfixed (h : Passage .primary text e) : Passage .postfixed text e := by
  obtain ⟨tokens, ⟨d, rfl⟩, hSpells⟩ := h
  exact ⟨_, ⟨.alone d, rfl⟩, hSpells⟩

theorem operand (h : Passage .postfixed text e) : Passage (.level 0) text e := by
  obtain ⟨tokens, ⟨d, rfl⟩, hSpells⟩ := h
  exact ⟨_, ⟨.unsigned d, rfl⟩, hSpells⟩

theorem call {callee : String} (hCallee : IsName callee) (h : Passage .expression text e) :
    Passage .postfixed (callee.toList ++ '(' :: (text ++ [')'])) (.call callee [e]) := by
  obtain ⟨_, ⟨d, rfl⟩, hSpells⟩ := h
  have hArgs := hSpells.append (breaks_cons (by decide) _)
    (@spells_sign ')' .rParen [] [] rfl rfl (.blanks rfl))
  exact ⟨_, ⟨.call (.alone (.word callee (.name hCallee.2))) (.lastItem d), rfl⟩,
    spells_identifier hCallee.1 (breaks_cons (by decide) _) (spells_sign rfl rfl hArgs)⟩

theorem level {count enough : Nat} (h : Passage (.level count) text e) (hCount : count ≤ enough)
    (hEnough : enough ≤ 6) : Passage (.level enough) text e := by
  induction enough, hCount using Nat.le_induction with
  | base => exact h
  | succ enough _ ih =>
    obtain ⟨tokens, ⟨d, rfl⟩, hSpells⟩ := ih (by omega)
    have hBelow : enough < 6 := by omega
    exact ⟨_, ⟨.single hBelow d, rfl⟩, hSpells⟩

theorem expression {count : Nat} (h : Passage (.level count) text e) (hCount : count ≤ 6) :
    Passage .expression text e := by
  obtain ⟨tokens, ⟨d, rfl⟩, hSpells⟩ := h.level hCount le_rfl
  exact ⟨_, ⟨.simple d, rfl⟩, hSpells⟩

theorem spells_between {c : Char} {sign : Symbol} {rest : List Char} {others : List Token}
    (hSign : simpleSymbol? c = some sign) (hBlank : Text.isBlank c = false)
    (h : Spells rest others) : Spells (' ' :: c :: ' ' :: rest) (.symbol sign :: others) := by
  have hSpace : Text.isBlank ' ' = true := by decide
  exact (spells_sign hSign hBlank (h.blank hSpace)).blank hSpace

theorem conditional {condition yes no : List Char} {c y n : Expr}
    (h : Passage (.level 6) condition c) (hYes : Passage .expression yes y)
    (hNo : Passage .expression no n) :
    Passage .expression
      (condition ++ ' ' :: '?' :: ' ' :: (yes ++ ' ' :: ':' :: ' ' :: no))
      (.conditional c y n) := by
  obtain ⟨_, ⟨dCondition, rfl⟩, hSpells⟩ := h
  obtain ⟨_, ⟨dYes, rfl⟩, hSpellsYes⟩ := hYes
  obtain ⟨_, ⟨dNo, rfl⟩, hSpellsNo⟩ := hNo
  have hBranches := hSpellsYes.append (breaks_cons (by decide) _)
    (@spells_between ':' .colon no _ rfl rfl hSpellsNo)
  have hAll := hSpells.append (breaks_cons (by decide) _)
    (@spells_between '?' .question _ _ rfl rfl hBranches)
  refine ⟨_, ⟨.conditional dCondition dYes dNo, rfl⟩, ?_⟩
  simpa [Derivation.spelling] using hAll

theorem plus (h : Passage (.level 2) text left) (hRight : Passage (.level 1) texts right) :
    Passage (.level 2) (text ++ ' ' :: '+' :: ' ' :: texts)
      (.binary (.arith .add) left right) := by
  obtain ⟨_, ⟨dLeft, rfl⟩, hSpells⟩ := h
  obtain ⟨_, ⟨dRight, rfl⟩, hSpellsRight⟩ := hRight
  exact ⟨_, ⟨.operation .plus .add dLeft dRight, rfl⟩, hSpells.append (breaks_cons (by decide) _)
    (spells_between rfl rfl hSpellsRight)⟩

end Passage

end ParamTree.Grammar
