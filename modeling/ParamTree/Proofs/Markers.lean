import ParamTree.Parameterizer
import ParamTree.Proofs.MarkerExtent
import ParamTree.Proofs.Trimming

/-!
# Markers around expressions

A text woven of literal texts and of expressions in markers is taken apart at the same places.
Main statement: `scan_weave_and_interpolate_marker`, which also says that a text that is one marker
has the result of its expression.
-/

namespace ParamTree

namespace Segment

def markerText (expression : String) : String :=
  Dialect.expression.delimiters.opening ++ expression ++ Dialect.expression.delimiters.closing

/-- The opening token of the expression dialect stands nowhere in the text. -/
def IsPlain (literal : String) : Prop :=
  ¬Dialect.expression.delimiters.opening.toList <:+: literal.toList

instance : DecidablePred IsPlain := fun literal =>
  inferInstanceAs (Decidable (¬Dialect.expression.delimiters.opening.toList <:+: literal.toList))

/-- A literal text, and expressions in markers with a literal text behind each of them. -/
def weave (literal : String) : List (String × String) → String
  | [] => literal
  | (expression, next) :: parts => literal ++ markerText expression ++ weave next parts

/-- The segments that a woven text is made of. -/
def ofWoven (literal : String) : List (String × String) → List Segment
  | [] => ofLiteral literal.toList
  | (expression, next) :: parts =>
    ofLiteral literal.toList ++ .marker (markerText expression) expression :: ofWoven next parts

theorem toList_markerText (expression : String) :
    (markerText expression).toList = '$' :: '{' :: (expression.toList ++ ['}']) := by
  simp [markerText, Dialect.delimiters]

theorem findToken?_eq_none {token text : List Char} (h : ¬token <:+: text) :
    findToken? token text = none := by
  induction text with
  | nil => rfl
  | cons c text ih =>
    have hFirst : ¬token.isPrefixOf (c :: text) = true := by
      intro hPrefix
      exact h (List.isPrefixOf_iff_prefix.mp hPrefix).isInfix
    rw [findToken?, if_neg hFirst, ih fun hText => h (List.infix_cons hText)]
    rfl

/-- The token is not found early, not even where the literal ends with its first character. -/
theorem findToken?_append {literal : List Char} (h : ¬['$', '{'] <:+: literal) (rest : List Char) :
    findToken? ['$', '{'] (literal ++ '$' :: '{' :: rest) = some (literal, rest) := by
  induction literal with
  | nil => rfl
  | cons c literal ih =>
    have hLiteral : ¬['$', '{'] <:+: literal :=
      fun hInfix => h (List.infix_cons hInfix)
    have hFirst : ¬['$', '{'].isPrefixOf (c :: (literal ++ '$' :: '{' :: rest)) = true := by
      intro hPrefix
      obtain ⟨rfl, hNext⟩ := List.cons_prefix_cons.mp (List.isPrefixOf_iff_prefix.mp hPrefix)
      cases literal with
      | nil => cases (List.cons_prefix_cons.mp hNext).1
      | cons d literal =>
        obtain ⟨rfl, -⟩ := List.cons_prefix_cons.mp hNext
        exact h ⟨[], literal, rfl⟩
    rw [List.cons_append, findToken?, if_neg hFirst, ih hLiteral]
    rfl

theorem toList_weave (literal expression next : String) (parts : List (String × String)) :
    (weave literal ((expression, next) :: parts)).toList =
      literal.toList ++ '$' :: '{' :: (expression.toList ++ '}' :: (weave next parts).toList) := by
  simp [weave, toList_markerText]

theorem scan_weave {literal : String} {parts : List (String × String)} (hLiteral : IsPlain literal)
    (hParts : ∀ part ∈ parts, (∃ e, Expr.ofText part.1 = .ok e) ∧ IsPlain part.2) :
    scan Dialect.expression.delimiters (weave literal parts) = ofWoven literal parts := by
  change Segment.split '$' ['{'] ['}'] [] (weave literal parts).toList = _
  induction parts generalizing literal with
  | nil => exact split_of_none (findToken?_eq_none hLiteral)
  | cons part parts ih =>
    obtain ⟨expression, next⟩ := part
    obtain ⟨⟨⟨e, hExpression⟩, hNext⟩, hParts⟩ := List.forall_mem_cons.mp hParts
    rw [toList_weave, split_of_some (findToken?_append hLiteral _)
      (findClose?_of_ofText hExpression _), ih hNext hParts]
    have hRaw : String.ofList (['$', '{'] ++ expression.toList ++ ['}']) = markerText expression := by
      rw [← String.toList_inj, String.toList_ofList, toList_markerText]
      rfl
    rw [hRaw, String.ofList_toList]
    rfl

theorem scan_markerText {expression : String} {e : Expr} (h : Expr.ofText expression = .ok e) :
    scan Dialect.expression.delimiters (markerText expression) =
      [.marker (markerText expression) expression] := by
  have hEmpty : IsPlain "" := by decide
  have hWeave : weave "" [(expression, "")] = markerText expression := by
    simp [weave]
  have hParts : ∀ part ∈ [(expression, "")],
      (∃ e, Expr.ofText part.1 = .ok e) ∧ IsPlain part.2 :=
    List.forall_mem_singleton.mpr ⟨⟨e, h⟩, hEmpty⟩
  have hScan := scan_weave hEmpty hParts
  rw [hWeave] at hScan
  exact hScan

end Segment

open Grammar Lexer Segment

variable {σ : Type}

theorem Evaluator.cooperative_trim {text : String} {e : Expr} (h : Expr.ofText text = .ok e) :
    (cooperative : Evaluator σ) (Text.trim text) = cooperative text := by
  funext params limit world
  rw [cooperative, cooperative, h, Expr.ofText_trim h]

theorem Evaluator.standard_trim {text : String} {e : Expr} (h : Expr.ofText text = .ok e) :
    (standard : Evaluator σ) (Text.trim text) = standard text := by
  funext params limit world
  simp only [standard, isolated, cooperative_trim h]

theorem Evaluator.eq_trim {evaluator : Evaluator σ}
    (h : evaluator = cooperative ∨ evaluator = standard) {text : String} {e : Expr}
    (hText : Expr.ofText text = .ok e) : evaluator (Text.trim text) = evaluator text := by
  obtain rfl | rfl := h
  · exact cooperative_trim hText
  · exact standard_trim hText

/-- What a marker that is the whole text makes of the result of its expression. -/
def Interpolation.wholeResult (config : Config) (expression fragment : String) :
    Except EvalError (Option Json) → Except TemplateError (Option Json)
  | .ok result => .ok result
  | .error cause =>
    if config.isLenient then
      .ok (some (.string fragment))
    else
      .error (.ofFault (.ofEvaluation expression fragment cause))

theorem Parameterizer.interpolate_markerText (engine : Parameterizer σ)
    (hDialect : engine.config.dialect = .expression)
    (hDelimiters : engine.config.delimiters = Dialect.expression.delimiters) {text : String}
    {e : Expr} (hText : Expr.ofText text = .ok e) (params : ParameterSet σ) (world : World σ) :
    engine.interpolate (markerText text) params world =
      ((engine.evaluator (Text.trim text) params engine.config.timeout world).1.map
          (Interpolation.wholeResult engine.config (Text.trim text) (markerText text)),
        (engine.evaluator (Text.trim text) params engine.config.timeout world).2) := by
  have hPlan : Interpolation.interpolate engine.config (markerText text) =
      Template.orKeep engine.config.isLenient (Template.evaluate (Text.trim text) (markerText text))
        (.done (some (.string (markerText text)))) := by
    rw [Interpolation.interpolate, hDelimiters, scan_markerText hText]
    simp [Interpolation.ofSegments, hDialect, Segment.isMarker]
  rw [interpolate, perform, hPlan]
  rcases hAnswer : engine.evaluator (Text.trim text) params engine.config.timeout world with
    ⟨_ | ⟨cause | result⟩, after⟩ <;> cases hLenient : engine.config.isLenient <;>
    simp [Template.orKeep, Template.evaluate, Template.fault, Plan.recover, Plan.run,
      ParameterSet.answerTemplate, Interpolation.wholeResult, hAnswer, hLenient]

/-- The scanner finds the markers of a woven text where they were put, and a text that is one marker
has the result of its expression, with its type or absent. -/
theorem Parameterizer.scan_weave_and_interpolate_marker :
    (∀ literal parts, IsPlain literal →
      (∀ part ∈ parts, (∃ e, Expr.ofText part.1 = .ok e) ∧ IsPlain part.2) →
      Segment.scan Dialect.expression.delimiters (weave literal parts) =
        ofWoven literal parts) ∧
    ∀ engine : Parameterizer σ, engine.config.dialect = .expression →
      engine.config.delimiters = Dialect.expression.delimiters →
      engine.evaluator = Evaluator.cooperative ∨ engine.evaluator = Evaluator.standard →
      ∀ text e, Expr.ofText text = .ok e → ∀ params world,
        engine.interpolate (markerText text) params world =
          ((engine.evaluator text params engine.config.timeout world).1.map
              (Interpolation.wholeResult engine.config (Text.trim text) (markerText text)),
            (engine.evaluator text params engine.config.timeout world).2) := by
  refine ⟨fun literal parts => scan_weave, ?_⟩
  intro engine hDialect hDelimiters hEvaluator text e hText params world
  have hTrim : engine.evaluator (Text.trim text) = engine.evaluator text := by
    obtain hEvaluator | hEvaluator := hEvaluator
    · rw [hEvaluator, Evaluator.cooperative_trim hText]
    · rw [hEvaluator, Evaluator.standard_trim hText]
  rw [interpolate_markerText engine hDialect hDelimiters hText, hTrim]

theorem Expr.ofText_quoted_brace :
    Expr.ofText "'\x7d'" = .ok (.literal (.string "\x7d")) := by
  have hString : readString '\'' ['\'', '\x7d', '\''] ['\x7d', '\''] = .ok (['\x7d'], []) := by
    rw [readString_plain (by decide) (by decide), readString_end]
    rfl
  have hToken : readToken '\'' ['\x7d', '\''] = .ok (.string "\x7d", []) := by
    simp [readToken, simpleSymbol?, hString, Except.map]
  have hOperand : Derives (.level 0) 127 [.string "\x7d"] (.literal (.string "\x7d")) :=
    .postfixed .string .suffixesEnd
  rw [Expr.ofText_eq_ok_iff]
  exact ⟨_, .token rfl hToken (.blanks rfl),
    .single (derives_level_add hOperand (show 0 + 6 ≤ 6 by decide))⟩

theorem Parameterizer.scan_and_interpolate_quoted_brace :
    Segment.scan Dialect.expression.delimiters "a$\x7b'\x7d'\x7d$$\x7b'\x7d'\x7d" =
      [.literal "a", .marker "$\x7b'\x7d'\x7d" "'\x7d'", .literal "$",
        .marker "$\x7b'\x7d'\x7d" "'\x7d'"] ∧
    (Parameterizer.cooperative Config.standard).interpolate "$\x7b'\x7d'\x7d" .empty ⟨(), 0⟩ =
      (some (.ok (some (.string "\x7d"))), ⟨(), 0⟩) := by
  obtain ⟨hScan, hInterpolate⟩ := @scan_weave_and_interpolate_marker Unit
  have hQuoted := Expr.ofText_quoted_brace
  constructor
  · refine hScan "a" [("'\x7d'", "$"), ("'\x7d'", "")] (by decide) ?_
    simp only [List.forall_mem_cons, List.not_mem_nil, false_imp_iff, implies_true, and_true]
    exact ⟨⟨⟨_, hQuoted⟩, by decide⟩, ⟨_, hQuoted⟩, by decide⟩
  · refine (hInterpolate (.cooperative Config.standard) rfl rfl (.inl rfl) _ _ hQuoted _ _).trans ?_
    have hResult : (cooperative Config.standard : Parameterizer Unit).evaluator "'\x7d'" .empty
        (cooperative Config.standard : Parameterizer Unit).config.timeout ⟨(), 0⟩ =
          (some (.ok (some (.string "\x7d"))), ⟨(), 0⟩) := by
      change Evaluator.cooperative _ _ _ _ = _
      rw [Evaluator.cooperative, hQuoted]
      rfl
    rw [hResult]
    rfl

end ParamTree
