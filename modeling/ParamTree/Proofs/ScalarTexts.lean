import ParamTree.Parameterizer
import ParamTree.Proofs.IntegralFloats
import ParamTree.Proofs.PrintedValues

/-!
# Texts of equal scalars

Equality looks at the value of a number, its text also at how the value is held: a float has the text
of an integer below `2 ^ 53` only. So equal values have the same text unless they are an integer and
a float from there on, or different integers that one float is nearest to. Main statement:
`Json.equal_values_print_alike_iff`.
-/

namespace ParamTree

namespace Number

theorem text_injective {m n : Number} (h : m.text = n.text) : m = n := by
  have hChars : (Json.number m).compactChars = (Json.number n).compactChars := by
    change m.chars = n.chars
    rw [← toList_text, h, toList_text]
  exact Json.number.inj (Json.compactChars_injective hChars)

/-- The number whose numeral is the text of a scalar. -/
def reduced : Number → Number
  | .integer value range => .integer value range
  | .float x => ofBinary64 x

theorem scalarText?_number (n : Number) : (Json.number n).scalarText? = some n.reduced.text := by
  cases n <;> rfl

theorem scalarText?_number_eq_iff {m n : Number} :
    (Json.number m).scalarText? = (Json.number n).scalarText? ↔ m.reduced = n.reduced := by
  rw [scalarText?_number, scalarText?_number, Option.some.injEq]
  exact ⟨text_injective, fun h => h ▸ rfl⟩

/-- For numbers that are equal: they are the same integer, or both floats, or an integer and a float
below `2 ^ 53`. -/
def PrintsAlike : Number → Number → Prop
  | .integer x _, .integer y _ => x = y
  | .integer x _, .float _ => x.natAbs < 0x20000000000000
  | .float _, .integer y _ => y.natAbs < 0x20000000000000
  | .float _, .float _ => True

theorem PrintsAlike.refl (n : Number) : n.PrintsAlike n := by
  cases n with
  | integer x hx => exact Eq.refl x
  | float x => trivial

theorem reduced_eq_iff {m n : Number} (h : m.compareValue n = .eq) :
    m.reduced = n.reduced ↔ m.PrintsAlike n := by
  have hScaled := ((compareValue_eq_iff m n).mp h).1
  cases m with
  | integer x hx =>
    cases n with
    | integer y hy => rw [reduced, reduced, integer.injEq, PrintsAlike]
    | float y =>
      have hFloat := @ofBinary64_of_rounded y x hx hScaled
      rw [reduced, reduced, hFloat, PrintsAlike]
      split <;> simp [*]
  | float x =>
    cases n with
    | integer y hy =>
      have hFloat := @ofBinary64_of_rounded x y hy hScaled.symm
      rw [reduced, reduced, hFloat, PrintsAlike]
      split <;> simp [*]
    | float y => exact iff_of_true (ofBinary64_congr hScaled) trivial

end Number

namespace Json

variable {a b : Json}

/-- The two values are not numbers of which one prints otherwise than the other. -/
def PrintAlike (a b : Json) : Prop :=
  ∀ m n, a = .number m → b = .number n → m.PrintsAlike n

/-- Equal values are the same value, or two numbers, or no scalars. -/
theorem cases_of_equals (h : a.equals b = true) :
    a = b ∨ (∃ m n, a = .number m ∧ b = .number n ∧ m.compareValue n = .eq) ∨
      a.scalarText? = none ∧ b.scalarText? = none ∧ a.kind = b.kind := by
  cases a <;> cases b <;> simp_all [equals, scalarText?, kind]

theorem scalarText?_eq_iff (h : a.equals b = true) :
    a.scalarText? = b.scalarText? ↔ a.PrintAlike b := by
  obtain rfl | ⟨m, n, rfl, rfl, hEqual⟩ | ⟨ha, hb, -⟩ := cases_of_equals h
  · refine iff_of_true rfl ?_
    rintro m n rfl hn
    obtain rfl := number.inj hn
    exact .refl m
  · rw [Number.scalarText?_number_eq_iff, Number.reduced_eq_iff hEqual]
    simp [PrintAlike]
  · refine iff_of_true (ha.trans hb.symm) ?_
    rintro m n rfl -
    rw [Number.scalarText?_number] at ha
    cases ha

theorem spliceText_eq_iff (h : a.equals b = true) (expression fragment : String) :
    Interpolation.spliceText (some a) expression fragment =
      Interpolation.spliceText (some b) expression fragment ↔ a.PrintAlike b := by
  rw [← scalarText?_eq_iff h]
  obtain rfl | ⟨m, n, rfl, rfl, -⟩ | ⟨ha, hb, hKind⟩ := cases_of_equals h
  · exact iff_of_true rfl rfl
  · simp [Interpolation.spliceText, Number.scalarText?_number]
  · simp [Interpolation.spliceText, ha, hb, hKind]

theorem decision_of_string?_eq_none (h : a.string? = none) :
    Substitution.decision a = .done (some a) := by
  cases a with
  | string text => cases h
  | null | bool _ | number _ | array _ | object _ => rfl

/-- A switch whose selector is a scalar and no expression goes on with the case of its text. -/
theorem directive_selection_of_scalarText? {label : String} (hString : a.string? = none)
    (hLabel : a.scalarText? = some label) (config : Config)
    (fields : List (String × Substitution.Field)) (cases : Entries Substitution.Field)
    (plan : Template (Option Json)) :
    Substitution.directive config fields (.selection (a, plan) cases) =
      Substitution.branch label
        (if label = switchKey then none else Entries.get? cases label) := by
  rw [Substitution.directive, decision_of_string?_eq_none hString]
  simp only [Template.under, Plan.mapError, Plan.recover, Plan.done_bind,
    Interpolation.spliceText, Option.bind_some, hLabel]

/-- A switch looks at nothing but the text of a selector that is no expression. -/
theorem directive_selection_congr (h : a.equals b = true) (hPrint : a.PrintAlike b)
    (config : Config) (fields : List (String × Substitution.Field))
    (cases : Entries Substitution.Field) (plan plan' : Template (Option Json)) :
    Substitution.directive config fields (.selection (a, plan) cases) =
      Substitution.directive config fields (.selection (b, plan') cases) := by
  have hString : a.string? = b.string? := by
    cases a <;> cases b <;> simp_all [equals, string?]
  rw [Substitution.directive, Substitution.directive, ← hString]
  cases hText : a.string? with
  | some text =>
    obtain rfl := eq_string_of_string? hText
    obtain rfl := eq_string_of_string? (hString ▸ hText)
    rfl
  | none =>
    rw [decision_of_string?_eq_none hText, decision_of_string?_eq_none (hString ▸ hText)]
    simp only [Template.under, Plan.mapError, Plan.recover, Plan.done_bind, Option.getD_none,
      (spliceText_eq_iff h "" "").mpr hPrint]

/-- Equal values have the same text, by which a marker is replaced and a switch selects a case,
exactly if they are not numbers of which one prints otherwise than the other. -/
theorem equal_values_print_alike_iff (h : looseEquals (some a) (some b) = true) :
    (a.scalarText? = b.scalarText? ↔ a.PrintAlike b) ∧
    (∀ expression fragment, Interpolation.spliceText (some a) expression fragment =
      Interpolation.spliceText (some b) expression fragment ↔ a.PrintAlike b) ∧
    (a.PrintAlike b → ∀ config fields cases plan plan',
      Substitution.directive config fields (.selection (a, plan) cases) =
        Substitution.directive config fields (.selection (b, plan') cases)) := by
  rw [looseEquals] at h
  refine ⟨scalarText?_eq_iff h, spliceText_eq_iff h, ?_⟩
  intro hPrint config fields cases plan plan'
  exact directive_selection_congr h hPrint config fields cases plan plan'

/-- The negative zero has the text of the integer, which it equals. -/
theorem equal_values_print_alike_negative_zero :
    let zero : Json := .number (.integer 0 (by decide))
    let float : Json := .number (.float ⟨true, 0, 0, by decide⟩)
    looseEquals (some zero) (some float) = true ∧ zero.PrintAlike float ∧
      zero.scalarText? = float.scalarText? := by
  intro zero float
  have hEqual : looseEquals (some zero) (some float) = true := by
    decide +kernel
  have hPrint : zero.PrintAlike float := by
    rintro m n hm hn
    obtain rfl := number.inj hm
    obtain rfl := number.inj hn
    exact (by decide : (0 : Int).natAbs < 0x20000000000000)
  exact ⟨hEqual, hPrint, (equal_values_print_alike_iff hEqual).1.mpr hPrint⟩

/-- From `2 ^ 53` on a float keeps the text of a float, also where an integer has its value. A switch
that has a case for the integer has none for the float. -/
theorem equal_values_print_differently :
    let integer : Json := .number (.integer 0x20000000000000 (by decide))
    let float : Json := .number (.float ⟨false, 0x10000000000000, 1075, by decide⟩)
    let switch (selector : Json) : Json :=
      .object [("$switch", selector), ("9007199254740992", .bool true)]
    let engine : Parameterizer Unit := .isolated Config.standard
    looseEquals (some integer) (some float) = true ∧
    integer.scalarText? = some "9007199254740992" ∧
    float.scalarText? = some "9007199254740992.0" ∧
    engine.substitute (switch integer) .empty ⟨(), 0⟩ =
      (some (.ok (some (.bool true))), ⟨(), 0⟩) ∧
    engine.substitute (switch float) .empty ⟨(), 0⟩ = (some (.ok none), ⟨(), 0⟩) := by
  intro integer float switch engine
  have hInteger : integer.scalarText? = some "9007199254740992" := by
    decide +kernel
  have hFloat : float.scalarText? = some "9007199254740992.0" := by
    decide +kernel
  -- a selector that is no expression leaves the cases as the only part that is walked
  have hSwitch : ∀ selector label, selector.string? = none → selector.scalarText? = some label →
      engine.substitute (switch selector) .empty ⟨(), 0⟩ =
        engine.perform .empty (Substitution.branch label
          (if label = switchKey then none else Entries.get? (Substitution.walkFields Config.standard
            [("$switch", selector), ("9007199254740992", .bool true)]) label)) ⟨(), 0⟩ := by
    intro selector label hString hLabel
    rw [← directive_selection_of_scalarText? hString hLabel Config.standard
      (Substitution.walkFields Config.standard
        [("$switch", selector), ("9007199254740992", .bool true)]) _
      (Substitution.walk Config.standard selector)]
    rfl
  refine ⟨by decide +kernel, hInteger, hFloat, ?_, ?_⟩
  · rw [hSwitch _ _ rfl hInteger]
    rfl
  · rw [hSwitch _ _ rfl hFloat]
    rfl

end Json

end ParamTree
