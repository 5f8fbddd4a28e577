import ParamTree.Proofs.Derivation
import ParamTree.Proofs.ParserComplete

/-!
# Where phrases end

The parser decides where a phrase ends that is followed by a token which does not go on with it.
Operators that join to the left need more: a phrase of their level is its first operand with
operations behind it, as an expression with suffixes is a primary with suffixes behind it, and such
a sequence can be cut in one way only. Main statements: `Derivation.sequence_operations` and
`Derivation.sequence_suffixes`, with `Separable.snoc_inj` for the last piece.
-/

namespace ParamTree.Grammar

open ParamTree.Parser

/-! ### Sequences of pieces -/

section Pieces

variable {Head Piece : List Token → Prop} {xs ys piece other : List Token}
  {pieces others : List (List Token)}

/-- Where a head or a piece ends in front of further pieces is decided by the tokens. -/
structure Separable (Head Piece : List Token → Prop) : Prop where
  ne_nil {piece : List Token} : Piece piece → piece ≠ []
  head {xs ys : List Token} {pieces others : List (List Token)} : Head xs → Head ys →
    (∀ piece ∈ pieces, Piece piece) → (∀ piece ∈ others, Piece piece) →
    xs ++ pieces.flatten = ys ++ others.flatten → xs = ys
  piece {xs ys : List Token} {pieces others : List (List Token)} : Piece xs → Piece ys →
    (∀ piece ∈ pieces, Piece piece) → (∀ piece ∈ others, Piece piece) →
    xs ++ pieces.flatten = ys ++ others.flatten → xs = ys

/-- The tokens are a head with the pieces behind it. -/
def Sequence (Head Piece : List Token → Prop) (xs : List Token) (pieces : List (List Token)) :
    Prop :=
  ∃ head, Head head ∧ (∀ piece ∈ pieces, Piece piece) ∧ xs = head ++ pieces.flatten

theorem Sequence.head (h : Head xs) : Sequence Head Piece xs [] :=
  ⟨xs, h, nofun, (List.append_nil xs).symm⟩

theorem Sequence.snoc (h : Sequence Head Piece xs pieces) (hPiece : Piece piece) :
    Sequence Head Piece (xs ++ piece) (pieces ++ [piece]) := by
  obtain ⟨head, hHead, hPieces, rfl⟩ := h
  refine ⟨head, hHead, ?_, by simp⟩
  intro other hOther
  obtain hOther | hOther := List.mem_append.mp hOther
  · exact hPieces other hOther
  · rwa [List.mem_singleton.mp hOther]

namespace Separable

variable (h : Separable Head Piece)
include h

theorem pieces_eq (hPieces : ∀ piece ∈ pieces, Piece piece)
    (hOthers : ∀ piece ∈ others, Piece piece)
    (hEq : pieces.flatten = others.flatten) : pieces = others := by
  induction pieces generalizing others with
  | nil =>
    cases others with
    | nil => rfl
    | cons other others =>
      obtain ⟨hNil, -⟩ := List.append_eq_nil_iff.mp hEq.symm
      exact absurd hNil (h.ne_nil (hOthers other List.mem_cons_self))
  | cons piece pieces ih =>
    cases others with
    | nil =>
      obtain ⟨hNil, -⟩ := List.append_eq_nil_iff.mp hEq
      exact absurd hNil (h.ne_nil (hPieces piece List.mem_cons_self))
    | cons other others =>
      obtain ⟨hFirst, hRest⟩ := List.forall_mem_cons.mp hPieces
      obtain ⟨hOther, hBehind⟩ := List.forall_mem_cons.mp hOthers
      obtain rfl := h.piece hFirst hOther hRest hBehind hEq
      rw [ih hRest hBehind (List.append_cancel_left hEq)]

theorem sequence_unique (hXs : Sequence Head Piece xs pieces)
    (hOthers : Sequence Head Piece xs others) : pieces = others := by
  obtain ⟨head, hHead, hPieces, rfl⟩ := hXs
  obtain ⟨otherHead, hOtherHead, hOtherPieces, hEq⟩ := hOthers
  obtain rfl := h.head hHead hOtherHead hPieces hOtherPieces hEq
  exact h.pieces_eq hPieces hOtherPieces (List.append_cancel_left hEq)

/-- The last piece is where it is. -/
theorem snoc_inj (hXs : Sequence Head Piece xs pieces) (hPiece : Piece piece)
    (hYs : Sequence Head Piece ys others) (hOther : Piece other) (hEq : xs ++ piece = ys ++ other) :
    xs = ys ∧ piece = other := by
  have hSnoc := hYs.snoc hOther
  rw [← hEq] at hSnoc
  have hPieces := h.sequence_unique (hXs.snoc hPiece) hSnoc
  obtain ⟨-, hLast⟩ := List.append_inj' hPieces rfl
  obtain rfl : piece = other := List.head_eq_of_cons_eq hLast
  exact ⟨List.append_cancel_right hEq, rfl⟩

/-- A head is not a sequence that ends with a piece. -/
theorem head_ne_snoc (hXs : Head xs) (hYs : Sequence Head Piece ys others) (hOther : Piece other) :
    xs ≠ ys ++ other := by
  rintro rfl
  have hPieces := h.sequence_unique (.head hXs) (hYs.snoc hOther)
  simp at hPieces

end Separable

end Pieces

/-! ### Where phrases end -/

def placed (xs : List Token) : List Located :=
  xs.map fun token => ⟨token, 0⟩

theorem kinds_placed (xs : List Token) : kinds (placed xs) = xs := by
  induction xs with
  | nil => rfl
  | cons token xs ih => exact congrArg (token :: ·) ih

/-- In front of the rest, the parser takes just these tokens, if its budget is large enough. -/
def ReadsBack {α : Type} (p : Nat → Parser α) (xs rest : List Token) : Prop :=
  ∃ need a, ∀ budget ≥ need, p budget (placed xs ++ placed rest) = .ok (a, placed rest)

theorem ReadsBack.inj {α : Type} {p : Nat → Parser α} {xs ys rest behind : List Token}
    (hXs : ReadsBack p xs rest) (hYs : ReadsBack p ys behind) (hEq : xs ++ rest = ys ++ behind) :
    xs = ys ∧ rest = behind := by
  obtain ⟨need, a, hRead⟩ := hXs
  obtain ⟨other, b, hOther⟩ := hYs
  have hPlaced : placed xs ++ placed rest = placed ys ++ placed behind := by
    rw [placed, placed, ← List.map_append, hEq, List.map_append]
    rfl
  have hResult := hRead (max need other) (by omega)
  rw [hPlaced, hOther (max need other) (by omega)] at hResult
  have hKinds := congrArg kinds (Prod.mk.inj (Except.ok.inj hResult)).2
  rw [kinds_placed, kinds_placed] at hKinds
  subst hKinds
  exact ⟨List.append_cancel_right hEq, rfl⟩

/-- What stands behind does not go on with a phrase of the first levels. -/
def Ends (count : Nat) (rest : List Token) : Prop :=
  Stops count (peek (placed rest))

namespace Derivation

variable {e : Expr} {rest : List Token}

theorem readsBack_expression (d : Derivation .expression e) (hRest : Ends 7 rest) :
    ReadsBack (expression operand) d.spelling rest := by
  obtain ⟨need, hDerives⟩ := d.fitsFrom
  exact ⟨need, e, fun budget hBudget => (hDerives budget hBudget).accepted (kinds_placed _) hRest⟩

theorem readsBack_level {count : Nat} (d : Derivation (.level count) e) (hRest : Ends count rest) :
    ReadsBack (levelOf operand count) d.spelling rest := by
  obtain ⟨need, hDerives⟩ := d.fitsFrom.choose_spec.level
  exact ⟨need, e, fun budget hBudget => (hDerives budget hBudget).accepted (kinds_placed _) hRest⟩

theorem readsBack_primary (d : Derivation .primary e) :
    ReadsBack (fun budget => primary (expression operand budget)) d.spelling rest := by
  obtain ⟨need, hDerives⟩ := d.fitsFrom
  exact ⟨need, e, fun budget hBudget => (hDerives budget hBudget).accepted (kinds_placed _)⟩

theorem readsBack_args {args : List Expr} (d : Derivation .items (.array args)) :
    ReadsBack (fun budget => items (expression operand budget) .rParen .parenAfterArguments)
      (d.spelling ++ [.symbol .rParen]) rest := by
  obtain ⟨need, hDerives⟩ := d.fitsFrom
  exact ⟨need, args, fun budget hBudget =>
    (hDerives budget hBudget .rParen).accepted (kinds_placed _) args _ rfl rfl⟩

end Derivation

/-! ### Operations and suffixes as pieces -/

def Phrase (category : Nonterminal) (xs : List Token) : Prop :=
  ∃ e, Spelled category xs e

def OperationPiece (count : Nat) (xs : List Token) : Prop :=
  ∃ sign operand, xs = .symbol sign :: operand ∧ rank? (.symbol sign) = some (count + 1) ∧
    Phrase (.level count) operand

inductive SuffixPiece : List Token → Prop where
  | call {xs args} :
    Spelled .items xs (.array args) → SuffixPiece (.symbol .lParen :: xs ++ [.symbol .rParen])
  | member {property} : SuffixPiece [.symbol .dot, .ident property]
  | index {xs} :
    Phrase .expression xs → SuffixPiece (.symbol .lBracket :: xs ++ [.symbol .rBracket])

theorem ends_nil (count : Nat) : Ends count [] :=
  stops_of_rank_none rfl count

theorem ends_operations {count : Nat} {pieces : List (List Token)}
    (h : ∀ piece ∈ pieces, OperationPiece count piece) : Ends count pieces.flatten := by
  cases pieces with
  | nil => exact ends_nil count
  | cons piece pieces =>
    obtain ⟨sign, operand, rfl, hRank, -⟩ := h piece List.mem_cons_self
    intro rank hSign
    cases hRank.symm.trans hSign
    exact Nat.lt_succ_self count

theorem separable_operations (count : Nat) :
    Separable (Phrase (.level count)) (OperationPiece count) := by
  constructor
  case ne_nil =>
    rintro piece ⟨sign, operand, rfl, -⟩
    exact List.cons_ne_nil _ _
  case head =>
    rintro _ _ pieces others ⟨e, d, rfl⟩ ⟨f, d', rfl⟩ hPieces hOthers hEq
    exact ((d.readsBack_level (ends_operations hPieces)).inj
      (d'.readsBack_level (ends_operations hOthers)) hEq).1
  case piece =>
    rintro _ _ pieces others ⟨sign, _, rfl, -, e, d, rfl⟩ ⟨other, _, rfl, -, f, d', rfl⟩ hPieces
      hOthers hEq
    obtain ⟨hSign, hRest⟩ := List.cons.inj hEq
    rw [hSign, ((d.readsBack_level (ends_operations hPieces)).inj
      (d'.readsBack_level (ends_operations hOthers)) hRest).1]

theorem ends_closing {closing : Symbol} (h : closes closing = true) (count : Nat)
    (rest : List Token) : Ends count (.symbol closing :: rest) :=
  stops_of_closes h count

theorem separable_suffixes : Separable (Phrase .primary) SuffixPiece := by
  constructor
  case ne_nil =>
    rintro piece (_ | _ | _) <;> exact List.cons_ne_nil _ _
  case head =>
    rintro _ _ pieces others ⟨e, d, rfl⟩ ⟨f, d', rfl⟩ - - hEq
    exact (d.readsBack_primary.inj d'.readsBack_primary hEq).1
  case piece =>
    rintro xs ys pieces others hXs hYs - - hEq
    cases hXs with
    | call hArgs =>
      cases hYs with
      | call hOther =>
        obtain ⟨d, rfl⟩ := hArgs
        obtain ⟨d', rfl⟩ := hOther
        exact congrArg (.symbol .lParen :: ·)
          (d.readsBack_args.inj d'.readsBack_args (List.cons.inj hEq).2).1
      | member | index _ => cases hEq
    | member =>
      cases hYs with
      | member =>
        obtain ⟨hName, -⟩ := List.cons.inj (List.cons.inj hEq).2
        rw [hName]
      | call _ | index _ => cases hEq
    | index hPosition =>
      cases hYs with
      | index hOther =>
        obtain ⟨e, d, rfl⟩ := hPosition
        obtain ⟨f, d', rfl⟩ := hOther
        have hRest : d.spelling ++ .symbol .rBracket :: pieces.flatten =
            d'.spelling ++ .symbol .rBracket :: others.flatten := by
          simpa using hEq
        have hPositions := (d.readsBack_expression (ends_closing rfl 7 _)).inj
          (d'.readsBack_expression (ends_closing rfl 7 _)) hRest
        rw [hPositions.1]
      | call _ | member => cases hEq

theorem Operation.result_eq {left right e f : Expr} {count : Nat} {sign : Symbol}
    (h : Operation left right count sign e) (h' : Operation left right count sign f) : e = f := by
  cases h <;> cases h' <;> rfl

theorem Sign.op_eq {sign : Symbol} {op other : UnaryOp} (h : Sign sign op) (h' : Sign sign other) :
    op = other := by
  cases h <;> cases h' <;> rfl

theorem Key.key_eq {token : Token} {key other : String} (h : Key token key) (h' : Key token other) :
    key = other := by
  cases h <;> cases h' <;> rfl

theorem Operation.rank_eq {left right e : Expr} {count : Nat} {sign : Symbol}
    (h : Operation left right count sign e) : rank? (.symbol sign) = some (count + 1) := by
  obtain ⟨join, hJoins, -⟩ := operation_iff_joins.mp h
  exact rank_of_joins hJoins

namespace Derivation

theorem sequence_operations {count : Nat} {e : Expr} : (d : Derivation (.level (count + 1)) e) →
    ∃ pieces, Sequence (Phrase (.level count)) (OperationPiece count) d.spelling pieces
  | .single _ d => ⟨[], .head ⟨e, d, rfl⟩⟩
  | .operation sign hOperation left right => by
    obtain ⟨pieces, hPieces⟩ := left.sequence_operations
    exact ⟨_, hPieces.snoc ⟨sign, _, rfl, hOperation.rank_eq, _, right, rfl⟩⟩
termination_by d => sizeOf d

theorem sequence_suffixes {e : Expr} : (d : Derivation .postfixed e) →
    ∃ pieces, Sequence (Phrase .primary) SuffixPiece d.spelling pieces
  | .alone d => ⟨[], .head ⟨e, d, rfl⟩⟩
  | .call callee args => by
    obtain ⟨pieces, hPieces⟩ := callee.sequence_suffixes
    have hCall : SuffixPiece (.symbol .lParen :: args.spelling ++ [.symbol .rParen]) :=
      .call ⟨args, rfl⟩
    rw [spelling, List.append_assoc]
    exact ⟨_, hPieces.snoc hCall⟩
  | .member property target => by
    obtain ⟨pieces, hPieces⟩ := target.sequence_suffixes
    exact ⟨_, hPieces.snoc .member⟩
  | .index target position => by
    obtain ⟨pieces, hPieces⟩ := target.sequence_suffixes
    have hIndex : SuffixPiece (.symbol .lBracket :: position.spelling ++ [.symbol .rBracket]) :=
      .index ⟨_, position, rfl⟩
    rw [spelling, List.append_assoc]
    exact ⟨_, hPieces.snoc hIndex⟩
termination_by d => sizeOf d

end Derivation

end ParamTree.Grammar
