import Mathlib.Data.List.Forall2
import ParamTree.Proofs.Markers
import ParamTree.Proofs.Passages
import ParamTree.Proofs.Untimed

/-!
# Splicing and concatenation

A text with expressions in markers becomes the text that the sum of its pieces evaluates to, where
the literal texts are quoted and each expression stands in parentheses. Splices and sums turn values
into text alike. Main statement: `interpolate_agrees_with_concatenation`.
-/

namespace ParamTree

open Plan Grammar Segment

/-- The text can stand between single quotes as it is. -/
def Text.IsUnescaped (text : String) : Prop :=
  ∀ c ∈ text.toList, c ≠ '\'' ∧ c ≠ '\\'

instance : DecidablePred Text.IsUnescaped := fun text =>
  List.decidableBAll (fun c => c ≠ '\'' ∧ c ≠ '\\') text.toList

def quotedText (text : String) : String :=
  "'" ++ text ++ "'"

/-- The sum of the literal texts and the expressions of a woven text, in order. -/
def concatenation (literal : String) (parts : List (String × String)) : String :=
  quotedText literal ++
    String.join (parts.map fun part => " + (" ++ part.1 ++ ") + " ++ quotedText part.2)

section Yields

variable {σ : Type} (evaluator : Evaluator σ) (params : ParameterSet σ) (limit : Duration)

/-- The expressions, evaluated one after the other, have scalars as results. The text of each is put
in front of the literal text behind it. -/
inductive YieldsText : List (String × String) → World σ → String → List Invocation → World σ →
    Prop where
  | nil (world : World σ) : YieldsText [] world "" [] world
  | cons {expression next text joined : String} {parts : List (String × String)} {value : Json}
    {calls : List Invocation} {world middle after : World σ} :
    evaluator expression params limit world = (some (.ok (some value)), middle) →
    value.scalarText? = some text →
    YieldsText parts middle joined calls after →
    YieldsText ((expression, next) :: parts) world (text ++ next ++ joined)
      (params.invokedBy limit (.evaluate expression) world ++ calls) after

end Yields

namespace Expr

def plus (left right : Expr) : Expr :=
  .binary (.arith .add) left right

/-- The operands and the texts behind them, added from the left. -/
def sum (first : Expr) (operands : List (Expr × String)) : Expr :=
  operands.foldl (fun sum operand => plus (plus sum operand.1) (.literal (.string operand.2))) first

@[simp] theorem sum_nil (first : Expr) : sum first [] = first := rfl

@[simp] theorem sum_cons (first : Expr) (operand : Expr × String)
    (operands : List (Expr × String)) :
    sum first (operand :: operands) =
      sum (plus (plus first operand.1) (.literal (.string operand.2))) operands := rfl

def Parsed (part : String × String) (operand : Expr × String) : Prop :=
  ofText part.1 = .ok operand.1 ∧ part.2 = operand.2

theorem exists_parsed {parts : List (String × String)}
    (h : ∀ part ∈ parts, ∃ e, ofText part.1 = .ok e) :
    ∃ operands, List.Forall₂ Parsed parts operands := by
  induction parts with
  | nil => exact ⟨[], .nil⟩
  | cons part parts ih =>
    obtain ⟨⟨e, hPart⟩, hParts⟩ := List.forall_mem_cons.mp h
    obtain ⟨operands, hOperands⟩ := ih hParts
    exact ⟨(e, part.2) :: operands, .cons ⟨hPart, rfl⟩ hOperands⟩

end Expr

open ParamTree.Expr

/-! ### The sum of the pieces -/

namespace Grammar

theorem Passage.quotedText {text : String} (h : Text.IsUnescaped text) :
    Passage .primary (quotedText text).toList (.literal (.string text)) := by
  have hPassage := @Passage.quoted '\'' text.toList rfl h
  rw [String.ofList_toList] at hPassage
  simpa [ParamTree.quotedText] using hPassage

theorem Passage.sum {parts : List (String × String)} {operands : List (Expr × String)}
    (hParsed : List.Forall₂ Parsed parts operands)
    (hTexts : ∀ part ∈ parts, Text.IsUnescaped part.2) {front : List Char} {first : Expr}
    (h : Passage (.level 2) front first) :
    Passage (.level 2) (front ++ (String.join (parts.map fun part =>
      " + (" ++ part.1 ++ ") + " ++ ParamTree.quotedText part.2)).toList) (sum first operands) := by
  induction hParsed generalizing front first with
  | nil => simpa using h
  | @cons part operand parts operands hPart _ ih =>
    obtain ⟨expression, next⟩ := part
    obtain ⟨e, text⟩ := operand
    obtain ⟨hExpression, rfl⟩ := hPart
    obtain ⟨hText, hTexts⟩ := List.forall_mem_cons.mp hTexts
    have hOperand := (Passage.of_ofText hExpression).group.postfixed.operand.level (Nat.zero_le 1)
      (by decide)
    have hNext := (Passage.quotedText hText).postfixed.operand.level (Nat.zero_le 1) (by decide)
    have hOthers := ih hTexts ((h.plus hOperand).plus hNext)
    simpa [String.join_cons, Expr.plus] using hOthers

end Grammar

theorem Expr.eq_sum_of_ofText {literal : String} {parts : List (String × String)}
    {operands : List (Expr × String)} {whole : Expr} (hLiteral : Text.IsUnescaped literal)
    (hTexts : ∀ part ∈ parts, Text.IsUnescaped part.2)
    (hParsed : List.Forall₂ Parsed parts operands)
    (hWhole : ofText (concatenation literal parts) = .ok whole) :
    whole = sum (.literal (.string literal)) operands := by
  have hFirst := (Passage.quotedText hLiteral).postfixed.operand.level (Nat.zero_le 2) (by decide)
  have hSum := (Passage.sum hParsed hTexts hFirst).expression (by decide)
  refine Passage.eq_of_ofText ?_ hWhole
  rwa [concatenation, String.toList_append]

section Run

variable {σ : Type} {params : ParameterSet σ} {world middle after : World σ}
  {calls others : List Invocation} {text joined : String}

theorem Json.concatText_eq {value : Json} (h : value.scalarText? = some text) :
    value.concatText = text := by
  rw [concatText, h]
  rfl

/-- A scalar that is added to a text is appended by its own text. -/
theorem Expr.reaches_plus {left right : Expr} {value : Json} {appended : String}
    (hLeft : left.evaluate.Reaches params world (some (.string text)) calls middle)
    (hRight : right.evaluate.Reaches params middle (some value) others after)
    (hText : value.scalarText? = some appended) :
    (plus left right).evaluate.Reaches params world (some (.string (text ++ appended)))
      (calls ++ others) after := by
  have hSum : BinaryOp.evaluate (.arith .add) (some (.string text)) (some value) =
      .done (.string (text ++ appended)) := by
    have hArithmetic : Json.arithmetic .add (.string text) value =
        .ok (.string (text ++ appended)) := by
      rw [Json.arithmetic.eq_def, if_pos ⟨rfl, .inl rfl⟩, Json.concatText_eq rfl,
        Json.concatText_eq hText]
    simp only [BinaryOp.evaluate, withOperands, Evaluation.require, done_bind, hArithmetic]
    rfl
  rw [plus, evaluate, Evaluation.reaches_inTime_iff]
  apply hLeft.bind
  apply hRight.bind_done
  rw [hSum]
  rfl

variable {evaluator : Evaluator σ} {limit : Duration} {parts : List (String × String)}

theorem Expr.reaches_sum (hEvaluator : evaluator = .cooperative ∨ evaluator = .standard)
    (h : YieldsText evaluator params limit parts middle joined others after)
    {operands : List (Expr × String)} (hParsed : List.Forall₂ Parsed parts operands) {first : Expr}
    (hFirst : first.evaluate.Reaches params world (some (.string text)) calls middle) :
    (sum first operands).evaluate.Reaches params world (some (.string (text ++ joined)))
      (calls ++ others) after := by
  induction h generalizing operands first text calls with
  | nil middle =>
    cases hParsed
    simpa using hFirst
  | @cons expression next text' joined parts value others middle middle' after hAnswer hText _ ih =>
    cases hParsed with
    | @cons _ operand _ operands hPart hParsed =>
      obtain ⟨e, _⟩ := operand
      obtain ⟨hExpression, rfl⟩ := hPart
      have hInTime := Evaluator.not_timedOut (congrArg Prod.fst hAnswer)
      have hOperand := (Evaluator.eq_ok_iff_reaches hEvaluator hExpression hInTime).mp
        ⟨hAnswer, rfl⟩
      have hNext := reaches_plus (reaches_plus hFirst hOperand hText)
        (reaches_literal (.string next) middle') rfl
      simpa [String.append_assoc] using ih hParsed hNext

end Run

/-! ### The splices of the pieces -/

section Splice

variable {σ : Type} {evaluator : Evaluator σ} {params : ParameterSet σ} {limit : Duration}
  {world after : World σ} {calls : List Invocation}

theorem Template.reaches_evaluate {text : String} {result : Option Json}
    (h : evaluator text params limit world = (some (.ok result), after)) (fragment : String) :
    (evaluate text fragment).Reaches evaluator params limit world result
      (params.invokedBy limit (.evaluate text) world) after :=
  .ask_done h rfl

theorem Template.reaches_orKeep {α : Type} {lenient : Bool} {plan kept : Template α} {value : α}
    (h : plan.Reaches evaluator params limit world value calls after) :
    (orKeep lenient plan kept).Reaches evaluator params limit world value calls after := by
  rw [orKeep]
  split
  · exact Reaches.recover h _
  · exact h

namespace Interpolation

variable {config : Config} {fragment : String}

theorem reaches_ofLiteral {segments : List Segment} {text : String} (literal : String)
    (h : (spliceSegments config fragment segments).Reaches evaluator params limit world text calls
      after) :
    (spliceSegments config fragment (ofLiteral literal.toList ++ segments)).Reaches evaluator params
      limit world (literal ++ text) calls after := by
  rw [ofLiteral]
  split
  · rename_i hEmpty
    obtain rfl : literal = "" := String.toList_eq_nil_iff.mp hEmpty
    simpa using h
  · rw [String.ofList_toList]
    exact Reaches.bind_done h rfl

variable (hDialect : config.dialect = .expression)
  (hEvaluator : evaluator = .cooperative ∨ evaluator = .standard)
include hDialect hEvaluator

theorem reaches_splice {expression text : String} {value : Json}
    (hExpression : ∃ e, Expr.ofText expression = .ok e)
    (hAnswer : evaluator expression params limit world = (some (.ok (some value)), after))
    (hText : value.scalarText? = some text) (raw : String) :
    (Template.orKeep config.isLenient (splice config expression fragment)
      (.done raw)).Reaches evaluator params limit world text
        (params.invokedBy limit (.evaluate expression) world) after := by
  obtain ⟨e, hExpression⟩ := hExpression
  have hTrimmed : params.invokedBy limit (.evaluate (Text.trim expression)) world =
      params.invokedBy limit (.evaluate expression) world := by
    rw [ParameterSet.invokedBy, ParameterSet.invokedBy, Expr.ofText_trim hExpression, hExpression]
  rw [← Evaluator.eq_trim hEvaluator hExpression] at hAnswer
  rw [← hTrimmed, splice.eq_def, hDialect]
  apply Template.reaches_orKeep
  apply Reaches.bind_done (Template.reaches_evaluate hAnswer fragment)
  rw [spliceText, Option.bind_some, hText]

theorem reaches_spliceSegments {parts : List (String × String)} {joined : String}
    (h : YieldsText evaluator params limit parts world joined calls after)
    (hParts : ∀ part ∈ parts, ∃ e, Expr.ofText part.1 = .ok e) (literal : String) :
    (spliceSegments config fragment (ofWoven literal parts)).Reaches evaluator params limit world
      (literal ++ joined) calls after := by
  induction h generalizing literal with
  | nil world =>
    have hNothing : (spliceSegments config fragment []).Reaches evaluator params limit world "" []
        world := ⟨rfl, rfl⟩
    simpa [ofWoven] using reaches_ofLiteral literal hNothing
  | cons hAnswer hText _ ih =>
    obtain ⟨hExpression, hParts⟩ := List.forall_mem_cons.mp hParts
    rw [ofWoven, String.append_assoc]
    apply reaches_ofLiteral
    apply Reaches.bind (reaches_splice hDialect hEvaluator hExpression hAnswer hText _)
    exact Reaches.bind_done (ih hParts _) rfl

end Interpolation

end Splice

theorem Segment.eq_nil_of_ofWoven {literal : String} {parts : List (String × String)}
    (h : ofWoven literal parts = []) : literal = "" ∧ parts = [] := by
  cases parts with
  | nil =>
    rw [ofWoven, ofLiteral] at h
    split at h
    · rename_i hEmpty
      exact ⟨String.toList_eq_nil_iff.mp hEmpty, rfl⟩
    · cases h
  | cons part parts => simp [ofWoven] at h

/-- Only a marker with nothing around it is woven into a single marker. -/
theorem Segment.ofWoven_ne_marker {literal : String} {parts : List (String × String)}
    (h : 2 ≤ parts.length ∨ literal ≠ "" ∨ ∃ part ∈ parts, part.2 ≠ "") (raw body : String) :
    ofWoven literal parts ≠ [.marker raw body] := by
  intro hWoven
  cases parts with
  | nil =>
    rw [ofWoven, ofLiteral] at hWoven
    split at hWoven <;> cases hWoven
  | cons part parts =>
    obtain ⟨expression, next⟩ := part
    rw [ofWoven, ofLiteral] at hWoven
    split at hWoven
    · rename_i hEmpty
      obtain rfl : literal = "" := String.toList_eq_nil_iff.mp hEmpty
      obtain ⟨rfl, rfl⟩ := eq_nil_of_ofWoven (List.cons.inj hWoven).2
      simp at h
    · cases hWoven

theorem Segment.any_isMarker_ofWoven (literal : String) {parts : List (String × String)}
    (h : parts ≠ []) : (ofWoven literal parts).any isMarker = true := by
  obtain ⟨part, parts, rfl⟩ := List.exists_cons_of_ne_nil h
  simp [ofWoven, isMarker]

namespace Parameterizer

variable {σ : Type}

/-- A text with expressions in markers, all of which have scalars as results, becomes the text that
the sum of its pieces evaluates to, with the same invocations. -/
theorem interpolate_agrees_with_concatenation (engine : Parameterizer σ)
    (hDialect : engine.config.dialect = .expression)
    (hDelimiters : engine.config.delimiters = Dialect.expression.delimiters)
    (hEvaluator : engine.evaluator = .cooperative ∨ engine.evaluator = .standard)
    {literal : String} {parts : List (String × String)} (hParts : parts ≠ [])
    (hMixed : 2 ≤ parts.length ∨ literal ≠ "" ∨ ∃ part ∈ parts, part.2 ≠ "")
    (hLiteral : IsPlain literal ∧ Text.IsUnescaped literal)
    (hPieces : ∀ part ∈ parts,
      (∃ e, Expr.ofText part.1 = .ok e) ∧ IsPlain part.2 ∧ Text.IsUnescaped part.2)
    (hWhole : ∃ e, Expr.ofText (concatenation literal parts) = .ok e)
    {params : ParameterSet σ} {world after : World σ} {joined : String} {calls : List Invocation}
    (hYields : YieldsText engine.evaluator params engine.config.timeout parts world joined calls
      after)
    (hTime : ¬Evaluator.TimedOut (engine.evaluator (concatenation literal parts) params
      engine.config.timeout world).1) :
    engine.interpolate (weave literal parts) params world =
        (some (.ok (some (.string (literal ++ joined)))), after) ∧
      engine.evaluator (concatenation literal parts) params engine.config.timeout world =
        (some (.ok (some (.string (literal ++ joined)))), after) ∧
      engine.invocations params (Interpolation.interpolate engine.config (weave literal parts))
        world = calls ∧
      params.invokedBy engine.config.timeout (.evaluate (concatenation literal parts)) world =
        calls := by
  have hSplices : (Interpolation.interpolate engine.config (weave literal parts)).Reaches
      engine.evaluator params engine.config.timeout world (some (.string (literal ++ joined))) calls
      after := by
    have hScan := scan_weave hLiteral.1 fun part hPart =>
      ⟨(hPieces part hPart).1, (hPieces part hPart).2.1⟩
    rw [Interpolation.interpolate, hDelimiters, hScan, if_pos (any_isMarker_ofWoven literal hParts),
      Interpolation.ofSegments.eq_def, hDialect]
    split
    · rename_i hSingle
      exact (ofWoven_ne_marker hMixed _ _ hSingle).elim
    · have hPieces : (Interpolation.spliceSegments engine.config (weave literal parts)
          (ofWoven literal parts)).Reaches engine.evaluator params engine.config.timeout world
            (literal ++ joined) calls after :=
        Interpolation.reaches_spliceSegments hDialect hEvaluator hYields
          (fun part hPart => (hPieces part hPart).1) literal
      exact Reaches.bind_done hPieces rfl
  obtain ⟨whole, hWhole⟩ := hWhole
  obtain ⟨operands, hParsed⟩ := Expr.exists_parsed fun part hPart => (hPieces part hPart).1
  obtain rfl := Expr.eq_sum_of_ofText hLiteral.2 (fun part hPart => (hPieces part hPart).2.2)
    hParsed hWhole
  have hSum := (Evaluator.eq_ok_iff_reaches hEvaluator hWhole hTime).mpr
    (Expr.reaches_sum hEvaluator hYields hParsed (Expr.reaches_literal (.string literal) world))
  exact ⟨hSplices.1, hSum.1, hSplices.2, hSum.2⟩

theorem interpolate_agrees_with_concatenation_counting_callable :
    let next : Callable Nat := ⟨0, fun _ count => (⟨.value (.ofNat count), ⟨5⟩⟩, count + 1)⟩
    let params : ParameterSet Nat := ⟨[("next", .callable next), ("t", .value (.string "x"))]⟩
    let engine : Parameterizer Nat := .isolated .standard
    let parts := [("next()", "-$"), ("t", "")]
    weave "a$" parts = "a$$\x7bnext()\x7d-$$\x7bt\x7d" ∧
    concatenation "a$" parts = "'a$' + (next()) + '-$' + (t) + ''" ∧
    ∃ calls after,
      YieldsText engine.evaluator params engine.config.timeout parts ⟨0, 0⟩ "0-$x" calls after ∧
      engine.interpolate (weave "a$" parts) params ⟨0, 0⟩ =
        (some (.ok (some (.string ("a$" ++ "0-$x")))), after) ∧
      engine.evaluator (concatenation "a$" parts) params engine.config.timeout ⟨0, 0⟩ =
        (some (.ok (some (.string ("a$" ++ "0-$x")))), after) := by
  intro next params engine parts
  refine ⟨by decide, by decide, ?_⟩
  have hNext : (engine.evaluator "next()" params engine.config.timeout ⟨0, 0⟩).1 =
      some (.ok (some (.ofNat 0))) := by decide +kernel
  have hText : (engine.evaluator "t" params engine.config.timeout
      (engine.evaluator "next()" params engine.config.timeout ⟨0, 0⟩).2).1 =
        some (.ok (some (.string "x"))) := by decide +kernel
  have hZero : (Json.ofNat 0).scalarText? = some "0" := by decide
  have hYields : YieldsText engine.evaluator params engine.config.timeout parts ⟨0, 0⟩
      ("0" ++ "-$" ++ ("x" ++ "" ++ "")) _ _ :=
    .cons (Prod.ext hNext rfl) hZero (.cons (Prod.ext hText rfl) rfl (.nil _))
  have hSum : (engine.evaluator (concatenation "a$" parts) params engine.config.timeout ⟨0, 0⟩).1 =
      some (.ok (some (.string "a$0-$x"))) := by decide +kernel
  have hPieces : ∀ part ∈ parts,
      (∃ e, Expr.ofText part.1 = .ok e) ∧ IsPlain part.2 ∧ Text.IsUnescaped part.2 := by
    simp only [parts, List.forall_mem_cons, List.not_mem_nil, false_imp_iff, implies_true, and_true]
    exact ⟨⟨Except.exists_eq_ok (by decide +kernel), by decide, by decide⟩,
      Except.exists_eq_ok (by decide +kernel), by decide, by decide⟩
  have hWhole : ∃ e, Expr.ofText (concatenation "a$" parts) = .ok e :=
    Except.exists_eq_ok (by decide +kernel)
  have hAgree := interpolate_agrees_with_concatenation engine rfl rfl (.inr rfl)
    (List.cons_ne_nil _ _) (.inl le_rfl) ⟨by decide, by decide⟩ hPieces hWhole hYields
    (Evaluator.not_timedOut hSum)
  exact ⟨_, _, hYields, hAgree.1, hAgree.2.1⟩

end Parameterizer

end ParamTree
