import Mathlib.Algebra.Order.Ring.Rat
import ParamTree.Proofs.Equality
import ParamTree.Proofs.Rounding

/-!
# Comparison of numbers of both kinds

Rounding keeps the order of fractions, so numbers that are compared as floats are never put in the
wrong order, but numbers that one float is nearest to are taken for equal. Main statements:
`Binary64.scaled_mono` and `Json.compareValue_exact_iff`.
-/

namespace ParamTree

namespace Binary64

theorem roundQuotient_mono {a b d : Nat} (h : a ≤ b) : roundQuotient a d ≤ roundQuotient b d := by
  have hQuotients : a / d ≤ b / d := Nat.div_le_div_right h
  have hA := Nat.div_add_mod a d
  have hB := Nat.div_add_mod b d
  by_cases hSame : a / d = b / d
  · have hRemainders : a % d ≤ b % d := by
      rw [hSame] at hA
      omega
    rw [roundQuotient, roundQuotient, hSame]
    split <;> split <;> omega
  · rw [roundQuotient, roundQuotient]
    split <;> split <;> omega

/-- The magnitude that a fraction is rounded to, in units. -/
def rounded (numerator denominator : Nat) : Nat :=
  let scale := scaleFor (numerator * unit / denominator)
  roundQuotient (numerator * unit) (denominator <<< scale) <<< scale

theorem eq_of_ofParts? {negative : Bool} {significand scale : Nat} {x : Binary64}
    (h : ofParts? negative significand scale = some x) :
    x.negative = negative ∧ x.magnitude = significand <<< scale := by
  rw [ofParts?] at h
  split at h
  · cases h
    exact ⟨rfl, rfl⟩
  · cases h

theorem eq_of_nearest? {negative : Bool} {numerator denominator : Nat} {x : Binary64}
    (h : nearest? negative numerator denominator = some x) :
    x.negative = negative ∧ x.magnitude = rounded numerator denominator := by
  simp only [nearest?] at h
  split at h
  · rename_i hCarry
    obtain ⟨hSign, hMagnitude⟩ := eq_of_ofParts? h
    refine ⟨hSign, ?_⟩
    rw [hMagnitude, rounded, hCarry, Nat.shiftLeft_succ_inside]
  · exact eq_of_ofParts? h

theorem scaleFor_mono {m n : Nat} (h : m ≤ n) : scaleFor m ≤ scaleFor n := by
  rw [scaleFor, scaleFor]
  by_cases hZero : m = 0
  · simp [hZero]
  · have hLog : m.log2 ≤ n.log2 :=
      (Nat.le_log2 (by omega)).mpr (Nat.le_trans (Nat.log2_self_le hZero) h)
    omega

theorem shiftLeft_mono {m n : Nat} (h : m ≤ n) (k : Nat) : m <<< k ≤ n <<< k := by
  rw [Nat.shiftLeft_eq, Nat.shiftLeft_eq]
  exact Nat.mul_le_mul_right _ h

/-- A fraction of a larger scale is rounded to no less than the least number of that scale. -/
theorem rounded_mono {m n d : Nat} (hd : 0 < d) (h : m ≤ n) : rounded m d ≤ rounded n d := by
  have hProducts : m * unit ≤ n * unit := Nat.mul_le_mul_right unit h
  have hScales : scaleFor (m * unit / d) ≤ scaleFor (n * unit / d) :=
    scaleFor_mono (Nat.div_le_div_right hProducts)
  have hPos : ∀ k, 0 < d <<< k := fun k =>
    Nat.pos_of_ne_zero (shiftLeft_ne_zero (Nat.ne_of_gt hd) k)
  have hShift : ∀ c k, c * (d <<< k) = (c <<< k) * d := by
    intro c k
    rw [Nat.shiftLeft_eq, Nat.shiftLeft_eq, Nat.mul_comm d, Nat.mul_assoc]
  rw [rounded, rounded]
  rcases Nat.eq_or_lt_of_le hScales with hSame | hLess
  · simp only [hSame]
    exact shiftLeft_mono (roundQuotient_mono hProducts) _
  · have hUpper := lt_shiftLeft_scaleFor (m * unit / d)
    have hLower := shiftLeft_scaleFor_le (Nat.ne_of_gt (Nat.zero_lt_of_lt hLess))
    generalize scaleFor (m * unit / d) = small at hUpper hLess ⊢
    generalize scaleFor (n * unit / d) = large at hLower hLess ⊢
    rw [Nat.div_lt_iff_lt_mul hd, ← hShift] at hUpper
    rw [Nat.le_div_iff_mul_le hd, ← hShift] at hLower
    calc roundQuotient (m * unit) (d <<< small) <<< small
      _ ≤ 0x20000000000000 <<< small :=
        shiftLeft_mono (roundQuotient_le (hPos small) (Nat.le_of_lt hUpper)) small
      _ = 0x10000000000000 <<< (small + 1) :=
        (Nat.shiftLeft_succ_inside 0x10000000000000 small).symm
      _ ≤ 0x10000000000000 <<< large := by
        rw [Nat.shiftLeft_eq, Nat.shiftLeft_eq]
        exact Nat.mul_le_mul_left _ (Nat.pow_le_pow_right Nat.two_pos hLess)
      _ ≤ roundQuotient (n * unit) (d <<< large) <<< large :=
        shiftLeft_mono (le_roundQuotient (hPos large) hLower) large

theorem scaled_of_ofFraction? {numerator : Int} {denominator : Nat} {x : Binary64}
    (h : ofFraction? numerator denominator = some x) :
    x.scaled = if numerator < 0 then -(rounded numerator.natAbs denominator : Int)
      else rounded numerator.natAbs denominator := by
  obtain ⟨hSign, hMagnitude⟩ := eq_of_nearest? h
  rw [scaled, hSign, hMagnitude]
  simp only [decide_eq_true_eq]

/-- Rounding keeps the order of fractions. -/
theorem scaled_mono {m n : Int} {d : Nat} (hd : 0 < d) {x y : Binary64}
    (hx : ofFraction? m d = some x) (hy : ofFraction? n d = some y) (h : m ≤ n) :
    x.scaled ≤ y.scaled := by
  rw [scaled_of_ofFraction? hx, scaled_of_ofFraction? hy]
  split <;> split
  · have hRounded := rounded_mono hd (by omega : n.natAbs ≤ m.natAbs)
    omega
  · omega
  · omega
  · have hRounded := rounded_mono hd (by omega : m.natAbs ≤ n.natAbs)
    omega

theorem scaled_withSign (x : Binary64) : (x.withSign (x.scaled < 0)).scaled = x.scaled := by
  have hMagnitude := x.natAbs_scaled
  change (if decide (x.scaled < 0) then -(x.magnitude : Int) else x.magnitude) = x.scaled
  simp only [decide_eq_true_eq]
  split <;> omega

end Binary64

namespace Number

/-- The value in units of the smallest float. -/
def units : Number → Int
  | .integer value _ => value * Binary64.unit
  | .float value => value.scaled

theorem toRat_eq (n : Number) : n.toRat = mkRat n.units Binary64.unit := by
  cases n with
  | integer value range =>
    have hUnit : Binary64.unit ≠ 0 := Nat.ne_of_gt Binary64.unit_pos
    rw [toRat, units, ← Rat.mkRat_one, ← Rat.mkRat_mul_right hUnit, Nat.one_mul]
  | float value => rfl

theorem toRat_le_iff (m n : Number) : m.toRat ≤ n.toRat ↔ m.units ≤ n.units := by
  have hUnit : (0 : Int) < Binary64.unit := Int.natCast_pos.mpr Binary64.unit_pos
  rw [toRat_eq, toRat_eq, Rat.mkRat_eq_divInt, Rat.mkRat_eq_divInt,
    Rat.divInt_le_divInt hUnit hUnit]
  exact Int.mul_le_mul_iff_of_pos_right hUnit

theorem toRat_inj (m n : Number) : m.toRat = n.toRat ↔ m.units = n.units := by
  rw [Rat.le_antisymm_iff, toRat_le_iff, toRat_le_iff, ← Int.le_antisymm_iff]

theorem ofFraction?_units (n : Number) :
    ∃ x, Binary64.ofFraction? n.units Binary64.unit = some x ∧
      x.scaled = n.toBinary64.scaled := by
  cases n with
  | integer value range =>
    obtain ⟨x, hx⟩ := Option.isSome_iff_exists.mp
      (Binary64.ofInt?_isSome (by omega : value.natAbs ≤ 0x10000000000000000))
    have hUnit : (0 : Int) < Binary64.unit := Int.natCast_pos.mpr Binary64.unit_pos
    have hSign : value * Binary64.unit < 0 ↔ value < 0 := by
      simpa only [Int.zero_mul] using Int.mul_lt_mul_right (c := 0) hUnit
    refine ⟨x, ?_, ?_⟩
    · rw [← hx, units, Binary64.ofInt?, Binary64.ofFraction?, Binary64.ofFraction?,
        decide_eq_decide.mpr hSign, Int.natAbs_mul, Int.natAbs_natCast, Nat.mul_comm]
      exact Binary64.nearest?_mul_left Binary64.unit_pos _ _ 1
    · simp only [toBinary64, hx, Option.get_some]
  | float value =>
    refine ⟨_, Binary64.nearest?_of_eq Binary64.unit_pos (by rw [units, value.natAbs_scaled]) _,
      value.scaled_withSign⟩

theorem scaled_toBinary64_mono {m n : Number} (h : m.toRat ≤ n.toRat) :
    m.toBinary64.scaled ≤ n.toBinary64.scaled := by
  obtain ⟨x, hx, hm⟩ := m.ofFraction?_units
  obtain ⟨y, hy, hn⟩ := n.ofFraction?_units
  rw [← hm, ← hn]
  exact Binary64.scaled_mono Binary64.unit_pos hx hy ((toRat_le_iff m n).mp h)

theorem magnitude_toBinary64 (n : Number) :
    n.toBinary64.magnitude = Binary64.rounded n.units.natAbs Binary64.unit := by
  obtain ⟨x, hx, hScaled⟩ := n.ofFraction?_units
  rw [← Binary64.natAbs_scaled, ← hScaled, Binary64.natAbs_scaled]
  exact (Binary64.eq_of_nearest? hx).2

/-- Rounding keeps the order of magnitudes. -/
theorem magnitude_toBinary64_mono {m n : Number} (h : m.units.natAbs ≤ n.units.natAbs) :
    m.toBinary64.magnitude ≤ n.toBinary64.magnitude := by
  rw [magnitude_toBinary64, magnitude_toBinary64]
  exact Binary64.rounded_mono Binary64.unit_pos h

/-- What is no larger than a float is rounded to nothing larger. -/
theorem magnitude_toBinary64_le {n : Number} {x : Binary64} (h : n.units.natAbs ≤ x.magnitude) :
    n.toBinary64.magnitude ≤ x.magnitude := by
  rw [← x.natAbs_scaled] at h
  exact @magnitude_toBinary64_mono n (.float x) h

theorem le_magnitude_toBinary64 {n : Number} {x : Binary64} (h : x.magnitude ≤ n.units.natAbs) :
    x.magnitude ≤ n.toBinary64.magnitude := by
  rw [← x.natAbs_scaled] at h
  exact @magnitude_toBinary64_mono (.float x) n h

/-- The order of the values. -/
def exactOrder (m n : Number) : Ordering :=
  if m.toRat < n.toRat then .lt else if m.toRat = n.toRat then .eq else .gt

/-- The numbers are compared as integers, or they are equal or else rounded to different floats. -/
def ToldApart (m n : Number) : Prop :=
  (m.signed?.isSome ∧ n.signed?.isSome) ∨ m.toRat = n.toRat ∨
    m.toBinary64.toRat ≠ n.toBinary64.toRat

theorem exactOrder_eq (m n : Number) : m.exactOrder n = compare m.units n.units := by
  have hLess : m.toRat < n.toRat ↔ m.units < n.units := by
    rw [← Rat.not_le, toRat_le_iff, Int.not_le]
  simp only [exactOrder, hLess, toRat_inj]
  rfl

theorem compareValue_of_signed {m n : Number} (h : m.signed?.isSome ∧ n.signed?.isSome) :
    m.compareValue n = compare m.units n.units := by
  obtain ⟨x, hx⟩ := Option.isSome_iff_exists.mp h.1
  obtain ⟨y, hy⟩ := Option.isSome_iff_exists.mp h.2
  have hUnit : (0 : Int) < Binary64.unit := Int.natCast_pos.mpr Binary64.unit_pos
  have hCompare : m.compareValue n = compare x y := by rw [compareValue, hx, hy]
  obtain ⟨_, rfl, -⟩ := signed?_eq_some_iff.mp hx
  obtain ⟨_, rfl, -⟩ := signed?_eq_some_iff.mp hy
  rw [hCompare, units, units]
  simp only [compare, compareOfLessAndEq, Int.mul_lt_mul_right hUnit,
    Int.mul_eq_mul_right_iff (Int.ne_of_gt hUnit)]

theorem compareValue_of_not_signed {m n : Number} (h : ¬(m.signed?.isSome ∧ n.signed?.isSome)) :
    m.compareValue n = compare m.toBinary64.scaled n.toBinary64.scaled := by
  rw [compareValue]
  split
  · rename_i x y hx hy
    simp [hx, hy] at h
  · rfl

/-- An order that is kept, though some of its steps may vanish, is told exactly where none does. -/
theorem compare_eq_compare_iff {a b u v : Int} (h : u ≤ v → a ≤ b) (h' : v ≤ u → b ≤ a) :
    compare a b = compare u v ↔ u = v ∨ a ≠ b := by
  rcases Int.lt_trichotomy u v with hLess | hEq | hGreater
  · rw [Int.compare_eq_lt.mpr hLess, Int.compare_eq_lt]
    omega
  · rw [Int.compare_eq_eq.mpr hEq, Int.compare_eq_eq]
    omega
  · rw [Int.compare_eq_gt.mpr hGreater, Int.compare_eq_gt]
    omega

theorem float_toRat_inj (x y : Binary64) : x.toRat = y.toRat ↔ x.scaled = y.scaled :=
  toRat_inj (.float x) (.float y)

theorem compareValue_eq_exactOrder_iff (m n : Number) :
    m.compareValue n = m.exactOrder n ↔ m.ToldApart n := by
  rw [exactOrder_eq, ToldApart, toRat_inj, Ne, float_toRat_inj]
  by_cases hSigned : m.signed?.isSome ∧ n.signed?.isSome
  · exact iff_of_true (compareValue_of_signed hSigned) (.inl hSigned)
  · rw [compareValue_of_not_signed hSigned, or_iff_right hSigned]
    exact compare_eq_compare_iff
      (fun h => scaled_toBinary64_mono ((toRat_le_iff m n).mpr h))
      (fun h => scaled_toBinary64_mono ((toRat_le_iff n m).mpr h))

theorem exactOrder_eq_eq_iff (m n : Number) : m.exactOrder n = .eq ↔ m.toRat = n.toRat := by
  rw [exactOrder_eq, Int.compare_eq_eq, toRat_inj]

/-- Different numbers that are rounded to one float are taken for equal. -/
theorem compareValue_of_not_toldApart {m n : Number} (h : ¬m.ToldApart n) :
    m.compareValue n = .eq ∧ m.toRat ≠ n.toRat := by
  simp only [ToldApart, not_or, not_not] at h
  obtain ⟨hSigned, hDiffer, hFloats⟩ := h
  refine ⟨?_, hDiffer⟩
  rw [compareValue_of_not_signed hSigned, Int.compare_eq_eq]
  exact (float_toRat_inj _ _).mp hFloats

end Number

/-- Two numbers are put in the order of their values, and are equal exactly if their values are, if
and only if they are told apart. -/
theorem Json.compareValue_exact_iff (m n : Number) :
    (Json.compareValue (.number m) (.number n) = .ok (m.exactOrder n) ↔ m.ToldApart n) ∧
    ((looseEquals (some (.number m)) (some (.number n)) = true ↔ m.toRat = n.toRat) ↔
      m.ToldApart n) := by
  have hOrder := Number.compareValue_eq_exactOrder_iff m n
  constructor
  · rw [compareValue, Except.ok.injEq, hOrder]
  · rw [looseEquals, equals, decide_eq_true_eq]
    constructor
    · intro h
      by_contra hNot
      obtain ⟨hEqual, hDiffer⟩ := Number.compareValue_of_not_toldApart hNot
      exact hDiffer (h.mp hEqual)
    · intro h
      rw [hOrder.mpr h, Number.exactOrder_eq_eq_iff]

/-- The float `2 ^ 53` is taken for equal to the integer behind it. -/
theorem Json.compareValue_not_exact :
    let above : Number := .integer 0x20000000000001 (by decide)
    let float : Number := .float ⟨false, 0x10000000000000, 1075, by decide⟩
    above.exactOrder float = .gt ∧
    Json.compareValue (.number above) (.number float) = .ok .eq ∧
    above.toRat ≠ float.toRat ∧
    looseEquals (some (.number above)) (some (.number float)) = true := by
  decide +kernel

end ParamTree
