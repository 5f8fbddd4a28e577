import ParamTree.Number

/-!
# Rounding of fractions

Rounding looks at the fraction alone, not at how it is written, and keeps what a finite number
stands for exactly. Main statements: `nearest?_of_eq`, `nearest?_congr` and
`Number.scaled_toBinary64`.
-/

namespace ParamTree

namespace Binary64

theorem unit_pos : 0 < unit := by
  decide +kernel

theorem roundQuotient_mul_self {d : Nat} (hd : 0 < d) (n : Nat) : roundQuotient (n * d) d = n := by
  simp [roundQuotient, Nat.mul_div_cancel n hd, hd]

theorem roundQuotient_mul_left {k : Nat} (hk : 0 < k) (a d : Nat) :
    roundQuotient (k * a) (k * d) = roundQuotient a d := by
  have hTwice : ∀ n, 2 * (k * n) = k * (2 * n) := fun n => Nat.mul_left_comm 2 k n
  simp only [roundQuotient, Nat.mul_div_mul_left a d hk, Nat.mul_mod_mul_left, hTwice,
    Nat.mul_lt_mul_left hk, Nat.mul_right_inj (Nat.ne_of_gt hk)]

theorem shiftLeft_ne_zero {n : Nat} (hn : n ≠ 0) (k : Nat) : n <<< k ≠ 0 := by
  rw [Nat.shiftLeft_eq]
  exact Nat.mul_ne_zero hn (Nat.ne_of_gt (Nat.two_pow_pos k))

theorem log2_shiftLeft {n : Nat} (hn : n ≠ 0) (k : Nat) : (n <<< k).log2 = n.log2 + k := by
  induction k with
  | zero => rfl
  | succ k ih =>
    rw [Nat.shiftLeft_succ, Nat.log2_two_mul (shiftLeft_ne_zero hn k), ih, Nat.add_assoc]

/-- The scale of a number is the one that its magnitude asks for. -/
theorem scaleFor_magnitude (x : Binary64) : scaleFor x.magnitude = x.scale := by
  obtain ⟨negative, significand, scale, hSignificand, -, hNormal⟩ := x
  change (significand <<< scale).log2 - 52 = scale
  by_cases hZero : significand = 0
  · subst hZero
    obtain hLarge | rfl := hNormal
    · omega
    · rfl
  · have hLog : significand.log2 < 53 := (Nat.log2_lt hZero).mpr hSignificand
    rw [log2_shiftLeft hZero]
    obtain hLarge | rfl := hNormal
    · have hFull : 52 ≤ significand.log2 := (Nat.le_log2 hZero).mpr hLarge
      omega
    · omega

theorem nearest?_of_eq {x : Binary64} {numerator denominator : Nat} (hd : 0 < denominator)
    (h : numerator * unit = x.magnitude * denominator) (negative : Bool) :
    nearest? negative numerator denominator = some (x.withSign negative) := by
  have hQuotient : numerator * unit / denominator = x.magnitude := by
    rw [h, Nat.mul_div_cancel _ hd]
  have hScale : scaleFor (numerator * unit / denominator) = x.scale := by
    rw [hQuotient, scaleFor_magnitude]
  have hProduct : numerator * unit = x.significand * (denominator <<< x.scale) := by
    rw [h, magnitude, Nat.shiftLeft_eq, Nat.shiftLeft_eq, Nat.mul_assoc,
      Nat.mul_comm denominator]
  have hPos : 0 < denominator <<< x.scale := by
    rw [Nat.shiftLeft_eq]
    exact Nat.mul_pos hd (Nat.two_pow_pos _)
  have hNe : x.significand ≠ 0x20000000000000 := Nat.ne_of_lt x.valid.1
  simp only [nearest?, hScale]
  rw [hProduct, roundQuotient_mul_self hPos, if_neg hNe, ofParts?, dif_pos x.valid]
  rfl

theorem nearest?_mul_left {k : Nat} (hk : 0 < k) (negative : Bool) (numerator denominator : Nat) :
    nearest? negative (k * numerator) (k * denominator) =
      nearest? negative numerator denominator := by
  have hShift : ∀ scale, (k * denominator) <<< scale = k * (denominator <<< scale) := by
    intro scale
    rw [Nat.shiftLeft_eq, Nat.shiftLeft_eq, Nat.mul_assoc]
  simp only [nearest?, Nat.mul_assoc k, Nat.mul_div_mul_left _ _ hk, hShift,
    roundQuotient_mul_left hk]

/-- Two ways to write one fraction are rounded alike. -/
theorem nearest?_congr {numerator denominator n d : Nat} (hDenominator : 0 < denominator)
    (hd : 0 < d) (h : numerator * d = n * denominator) (negative : Bool) :
    nearest? negative numerator denominator = nearest? negative n d := by
  rw [← nearest?_mul_left hd, ← nearest?_mul_left hDenominator negative n d,
    Nat.mul_comm d numerator, h, Nat.mul_comm n, Nat.mul_comm d]

/-- Integers of at most 53 binary digits, and the one behind them, are finite numbers. -/
theorem exists_magnitude_eq {n : Nat} (h : n ≤ 0x20000000000000) :
    ∃ x : Binary64, x.magnitude = n * unit := by
  by_cases hZero : n = 0
  · exact ⟨zero, by simp [hZero, zero, magnitude]⟩
  by_cases hTop : n = 0x20000000000000
  · refine ⟨⟨false, 0x10000000000000, unitExponent + 1, by decide⟩, ?_⟩
    rw [hTop]
    decide +kernel
  · have hLog : n.log2 < 53 := (Nat.log2_lt hZero).mpr (Nat.lt_of_le_of_ne h hTop)
    have hFull : (n <<< (52 - n.log2)).log2 = 52 := by
      rw [log2_shiftLeft hZero]
      omega
    have hBounds := (Nat.log2_eq_iff (shiftLeft_ne_zero hZero _)).mp hFull
    refine ⟨⟨false, n <<< (52 - n.log2), unitExponent - (52 - n.log2), hBounds.2, ?_,
      .inl hBounds.1⟩, ?_⟩
    · rw [unitExponent]
      omega
    · have hSum : 52 - n.log2 + (unitExponent - (52 - n.log2)) = unitExponent := by
        rw [unitExponent]
        omega
      rw [magnitude, ← Nat.shiftLeft_add, hSum, unit, Nat.shiftLeft_eq, Nat.shiftLeft_eq,
        Nat.one_mul]

theorem ofInt?_of_natAbs_le {n : Int} (h : n.natAbs ≤ 0x20000000000000) :
    ∃ x, ofInt? n = some x ∧ x.scaled = n * unit := by
  obtain ⟨x, hx⟩ := exists_magnitude_eq h
  have hNearest : ofInt? n = some (x.withSign (n < 0)) :=
    nearest?_of_eq Nat.one_pos (by rw [hx, Nat.mul_one]) _
  refine ⟨_, hNearest, ?_⟩
  change (if decide (n < 0) then -(x.magnitude : Int) else x.magnitude) = n * unit
  rw [hx, Int.natCast_mul]
  by_cases hNegative : n < 0
  · have hAbs : (n.natAbs : Int) = -n := by omega
    rw [decide_eq_true hNegative, if_pos rfl, hAbs, Int.neg_mul, Int.neg_neg]
  · have hAbs : (n.natAbs : Int) = n := by omega
    rw [decide_eq_false hNegative, if_neg Bool.false_ne_true, hAbs]

end Binary64

/-- Integers up to `2 ^ 53` keep their value when they are taken as floats. -/
theorem Number.scaled_toBinary64 {value : Int} {range}
    (h : value.natAbs ≤ 0x20000000000000) :
    (Number.integer value range).toBinary64.scaled = value * Binary64.unit := by
  obtain ⟨x, hx, hScaled⟩ := Binary64.ofInt?_of_natAbs_le h
  have hGet : (Number.integer value range).toBinary64 = x := by
    simp only [Number.toBinary64, hx, Option.get_some]
  rw [hGet, hScaled]

end ParamTree
