import ParamTree.Proofs.ReducedResults

/-!
# Equal numbers as positions

An element of an array is selected by an integer and by no float. So equal numbers select alike
unless one of them is a float and the other an integer within the array. Such a float is not reduced,
so it comes from the parameters. Main statement: `Expr.index_equal_numbers`.
-/

namespace ParamTree

open Plan (done_bind)

namespace Number

/-- For numbers that are equal: they are the same integer, or both floats, or no position in a list
of the length. -/
def IndexesAlike (length : Nat) : Number → Number → Prop
  | .integer x _, .integer y _ => x = y ∨ (length ≤ x ∧ length ≤ y)
  | .integer x _, .float _ => x < 0 ∨ length ≤ x
  | .float _, .integer y _ => y < 0 ∨ length ≤ y
  | .float _, .float _ => True

/-- Of the integers from `2 ^ 63` on, no float is that of one below `2 ^ 62`. -/
theorem le_of_scaled_eq {x y : Int} {hx hy}
    (h : (integer x hx).toBinary64.scaled = (integer y hy).toBinary64.scaled)
    (hLarge : 0x8000000000000000 ≤ y) : 0x4000000000000000 ≤ x := by
  by_contra hSmall
  -- both bounds are floats, so rounding keeps either integer on its side of them
  let low : Number := .integer 0x4000000000000000 (by decide)
  let high : Number := .integer 0x8000000000000000 (by decide)
  have hUnit : (0 : Int) ≤ Binary64.unit := Int.natCast_nonneg _
  have hLow : (integer x hx).toBinary64.scaled ≤ low.toBinary64.scaled := by
    apply scaled_toBinary64_mono
    rw [toRat_le_iff]
    exact Int.mul_le_mul_of_nonneg_right (by omega) hUnit
  have hHigh : high.toBinary64.scaled ≤ (integer y hy).toBinary64.scaled := by
    apply scaled_toBinary64_mono
    rw [toRat_le_iff]
    exact Int.mul_le_mul_of_nonneg_right hLarge hUnit
  have hApart : low.toBinary64.scaled < high.toBinary64.scaled := by
    decide +kernel
  omega

theorem integer_eq_or_large {x y : Int} {hx hy}
    (h : (integer x hx).compareValue (integer y hy) = .eq) :
    x = y ∨ (0x4000000000000000 ≤ x ∧ 0x4000000000000000 ≤ y) := by
  obtain ⟨hScaled, hSigned⟩ := (compareValue_eq_iff _ _).mp h
  have hExact : ∀ {z : Int} {hz}, z < 0x8000000000000000 → (integer z hz).signed? = some z :=
    fun hBound => if_pos hBound
  by_cases hxLarge : 0x8000000000000000 ≤ x
  · exact .inr ⟨by omega, le_of_scaled_eq hScaled.symm hxLarge⟩
  · by_cases hyLarge : 0x8000000000000000 ≤ y
    · exact .inr ⟨le_of_scaled_eq hScaled hyLarge, by omega⟩
    · exact .inl (hSigned x y (hExact (by omega)) (hExact (by omega)))

/-- A float that is equal to an integer below `2 ^ 53` is not reduced. -/
theorem large_of_isReduced {value : Int} {range} {x : Binary64}
    (h : (integer value range).compareValue (.float x) = .eq) (hReduced : (float x).IsReduced) :
    0x20000000000000 ≤ value.natAbs := by
  have hFloat := ofBinary64_of_rounded ((compareValue_eq_iff _ _).mp h).1
  by_contra hSmall
  rw [if_pos (by omega)] at hFloat
  cases hReduced.symm.trans hFloat

theorem compareValue_symm {m n : Number} (h : m.compareValue n = .eq) : n.compareValue m = .eq :=
  Json.Alike.symm (v := .number m) (w := .number n) h

theorem indexesAlike_of_isReduced {m n : Number} (h : m.compareValue n = .eq) (hm : m.IsReduced)
    (hn : n.IsReduced) {length : Nat} (hLength : length ≤ 0x20000000000000) :
    m.IndexesAlike length n := by
  cases m with
  | integer x hx =>
    cases n with
    | integer y hy =>
      obtain hSame | ⟨hxLarge, hyLarge⟩ := integer_eq_or_large h
      · exact .inl hSame
      · exact .inr ⟨by omega, by omega⟩
    | float y =>
      have hLarge := large_of_isReduced h hn
      simp only [IndexesAlike]
      omega
  | float x =>
    cases n with
    | integer y hy =>
      have hLarge := large_of_isReduced (compareValue_symm h) hm
      simp only [IndexesAlike]
      omega
    | float y => trivial

end Number

namespace Json

def element? (items : List Json) (n : Number) : Option Json :=
  n.unsigned?.bind fun i => items[i]?

variable {items : List Json} {m n : Number}

theorem element?_integer_eq_none_iff {x : Int} {range} :
    element? items (.integer x range) = none ↔ x < 0 ∨ items.length ≤ x := by
  simp only [element?, Number.unsigned?]
  split
  · rw [Option.bind_some, List.getElem?_eq_none_iff]
    omega
  · simp only [Option.bind_none, true_iff]
    omega

theorem element?_congr (h : m.IndexesAlike items.length n) : element? items m = element? items n := by
  cases m with
  | integer x hx =>
    cases n with
    | integer y hy =>
      obtain rfl | ⟨hxOutside, hyOutside⟩ := h
      · rfl
      · rw [element?_integer_eq_none_iff.mpr (.inr hxOutside),
          element?_integer_eq_none_iff.mpr (.inr hyOutside)]
    | float y => exact element?_integer_eq_none_iff.mpr h
  | float x =>
    cases n with
    | integer y hy => exact (element?_integer_eq_none_iff.mpr h).symm
    | float y => rfl

/-- No array is so long that two integers which are taken for equal are positions in it. -/
theorem indexesAlike_of_element?_eq (h : m.compareValue n = .eq)
    (hLength : items.length ≤ 0x4000000000000000) (hElements : element? items m = element? items n) :
    m.IndexesAlike items.length n := by
  cases m with
  | integer x hx =>
    cases n with
    | integer y hy =>
      obtain hSame | ⟨hxLarge, hyLarge⟩ := Number.integer_eq_or_large h
      · exact .inl hSame
      · exact .inr ⟨by omega, by omega⟩
    | float y => exact element?_integer_eq_none_iff.mp hElements
  | float x =>
    cases n with
    | integer y hy => exact element?_integer_eq_none_iff.mp hElements.symm
    | float y => trivial

end Json

namespace Expr

variable {σ : Type} {params : ParameterSet σ} {target position first second : Expr}
  {world middle after after' : World σ} {calls others others' : List Invocation}

theorem reaches_index {value : Option Json} {selector : Json} {result : Option Json}
    (hTarget : target.evaluate.Reaches params world value calls middle)
    (hPosition : position.evaluate.Reaches params middle (some selector) others after)
    (hSelect : Json.select selector value = .ok result) :
    (index target position).evaluate.Reaches params world result (calls ++ others) after := by
  rw [evaluate, Evaluation.reaches_inTime_iff]
  apply hTarget.bind
  apply hPosition.bind_done
  rw [Evaluation.require, done_bind, hSelect]
  rfl

/-- Two positions that are equal numbers select the same element if they index alike, and in no array
of up to `2 ^ 62` items otherwise. If the parameters have reduced numbers only, then so do the
positions, whatever their texts compute, and select the same element of up to `2 ^ 53`. -/
theorem index_equal_numbers {items : List Json} {m n : Number}
    (hTarget : target.evaluate.Reaches params world (some (.array items)) calls middle)
    (hFirst : first.evaluate.Reaches params middle (some (.number m)) others after)
    (hSecond : second.evaluate.Reaches params middle (some (.number n)) others' after')
    (hEqual : looseEquals (some (.number m)) (some (.number n)) = true) :
    ∃ element element',
      (index target first).evaluate.Reaches params world element (calls ++ others) after ∧
      (index target second).evaluate.Reaches params world element' (calls ++ others') after' ∧
      (m.IndexesAlike items.length n → element = element') ∧
      (items.length ≤ 0x4000000000000000 → element = element' →
        m.IndexesAlike items.length n) ∧
      (params.IsReduced → (∃ text, ofText text = .ok first) → (∃ text, ofText text = .ok second) →
        items.length ≤ 0x20000000000000 → element = element') := by
  have hCompare : m.compareValue n = .eq := by
    rwa [looseEquals, Json.equals, decide_eq_true_eq] at hEqual
  refine ⟨Json.element? items m, Json.element? items n, reaches_index hTarget hFirst rfl,
    reaches_index hTarget hSecond rfl, Json.element?_congr,
    Json.indexesAlike_of_element?_eq hCompare, ?_⟩
  rintro hParams ⟨text, hText⟩ ⟨text', hText'⟩ hLength
  have hm := (isReduced_of_ofText hText).of_reaches hParams hFirst _ rfl
  have hn := (isReduced_of_ofText hText').of_reaches hParams hSecond _ rfl
  rw [Json.isReduced_number_iff] at hm hn
  exact Json.element?_congr (Number.indexesAlike_of_isReduced hCompare hm hn hLength)

/-- Two items, and floats of the values one and two. -/
def pair : ParameterSet Unit :=
  .ofFields [("xs", .array [.string "a", .string "b"]),
    ("one", .number (.float ⟨false, 0x10000000000000, 1022, by decide⟩)),
    ("two", .number (.float ⟨false, 0x10000000000000, 1023, by decide⟩))]

/-- Within an array, two positions that are one integer find the same item. Behind its end, the
float finds as little as the integer. -/
theorem index_equal_numbers_within_and_behind_end :
    let one : Expr := .literal (.number (.integer 1 (by decide)))
    let two : Expr := .literal (.number (.integer 2 (by decide)))
    let difference : Expr := .binary (.arith .sub) two one
    (index (.name "xs") one).evaluate.Reaches pair ⟨(), 0⟩ (some (.string "b")) [] ⟨(), 0⟩ ∧
    (index (.name "xs") difference).evaluate.Reaches pair ⟨(), 0⟩ (some (.string "b")) []
      ⟨(), 0⟩ ∧
    (index (.name "xs") two).evaluate.Reaches pair ⟨(), 0⟩ none [] ⟨(), 0⟩ ∧
    (index (.name "xs") (.name "two")).evaluate.Reaches pair ⟨(), 0⟩ none [] ⟨(), 0⟩ := by
  intro one two difference
  let first : Number := .integer 1 (by decide)
  let second : Number := .integer 2 (by decide)
  let float : Number := .float ⟨false, 0x10000000000000, 1023, by decide⟩
  have hTarget : (name "xs").evaluate.Reaches pair ⟨(), 0⟩
      (some (.array [.string "a", .string "b"])) [] ⟨(), 0⟩ := ⟨rfl, rfl⟩
  have hOne : one.evaluate.Reaches pair ⟨(), 0⟩ (some (.number first)) [] ⟨(), 0⟩ := ⟨rfl, rfl⟩
  have hDifference : difference.evaluate.Reaches pair ⟨(), 0⟩ (some (.number first)) []
      ⟨(), 0⟩ := ⟨rfl, rfl⟩
  have hTwo : two.evaluate.Reaches pair ⟨(), 0⟩ (some (.number second)) [] ⟨(), 0⟩ := ⟨rfl, rfl⟩
  have hFloat : (name "two").evaluate.Reaches pair ⟨(), 0⟩ (some (.number float)) [] ⟨(), 0⟩ :=
    ⟨rfl, rfl⟩
  have hItem : (index (.name "xs") one).evaluate.Reaches pair ⟨(), 0⟩ (some (.string "b")) []
      ⟨(), 0⟩ := ⟨rfl, rfl⟩
  have hAbsent : (index (.name "xs") two).evaluate.Reaches pair ⟨(), 0⟩ none [] ⟨(), 0⟩ :=
    ⟨rfl, rfl⟩
  have hOutside : second.IndexesAlike 2 float := .inr (Int.le_refl 2)
  obtain ⟨_, _, hInteger, hOther, hSame, -, -⟩ :=
    index_equal_numbers hTarget hOne hDifference (by decide +kernel)
  obtain ⟨_, _, hBehind, hOtherBehind, hSameBehind, -, -⟩ :=
    index_equal_numbers hTarget hTwo hFloat (by decide +kernel)
  obtain ⟨rfl, -, -⟩ := hInteger.unique hItem
  obtain ⟨rfl, -, -⟩ := hBehind.unique hAbsent
  rw [← hSame (.inl rfl)] at hOther
  rw [← hSameBehind hOutside] at hOtherBehind
  exact ⟨hItem, hOther, hAbsent, hOtherBehind⟩

/-- Within an array, the float finds nothing. -/
theorem index_equal_numbers_not_alike :
    let integer : Number := .integer 1 (by decide)
    let float : Number := .float ⟨false, 0x10000000000000, 1022, by decide⟩
    looseEquals (some (.number integer)) (some (.number float)) = true ∧
    (name "one").evaluate.Reaches pair ⟨(), 0⟩ (some (.number float)) [] ⟨(), 0⟩ ∧
    (index (.name "xs") (.literal (.number integer))).evaluate.Reaches pair ⟨(), 0⟩
      (some (.string "b")) [] ⟨(), 0⟩ ∧
    (index (.name "xs") (.name "one")).evaluate.Reaches pair ⟨(), 0⟩ none [] ⟨(), 0⟩ := by
  intro integer float
  exact ⟨by decide +kernel, ⟨rfl, rfl⟩, ⟨rfl, rfl⟩, ⟨rfl, rfl⟩⟩

end Expr

end ParamTree
