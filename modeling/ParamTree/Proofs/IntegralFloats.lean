import ParamTree.Proofs.ExactComparison

/-!
# Floats of integral value

The integer that a float becomes is that of its value, and a float becomes one exactly if its value
is an integer below `2 ^ 53`. Main statements: `Number.ofBinary64_congr` and
`Number.ofBinary64_of_rounded`.
-/

namespace ParamTree

namespace Binary64

variable {x y : Binary64} {n : Int}

theorem truncate_of_scaled (h : x.scaled = n * unit) : x.truncate = n := by
  have hUnit : (unit : Int) ≠ 0 := Int.natCast_ne_zero.mpr (Nat.ne_of_gt unit_pos)
  rw [truncate, h, Int.mul_tdiv_cancel n hUnit]

theorem magnitude_of_scaled (h : x.scaled = n * unit) : x.magnitude = n.natAbs * unit := by
  rw [← natAbs_scaled, h, Int.natAbs_mul, Int.natAbs_natCast]

theorem isIntegral_of_scaled (h : x.scaled = n * unit) : x.isIntegral = true := by
  rw [isIntegral, magnitude_of_scaled h, Nat.mul_mod_left]
  rfl

theorem natAbs_truncate (x : Binary64) : x.truncate.natAbs = x.magnitude / unit := by
  rw [truncate, Int.natAbs_tdiv, natAbs_scaled, Int.natAbs_natCast]
  rfl

/-- Only a zero has two signs. -/
theorem eq_of_scaled_eq (h : x.scaled = y.scaled) (hNonzero : x.scaled ≠ 0) : x = y := by
  have hMagnitude : x.magnitude = y.magnitude := by
    rw [← natAbs_scaled, h, natAbs_scaled]
  have hScale : x.scale = y.scale := by
    rw [← scaleFor_magnitude, hMagnitude, scaleFor_magnitude]
  have hSignificand : x.significand = y.significand := by
    rw [magnitude, magnitude, hScale, Nat.shiftLeft_eq, Nat.shiftLeft_eq] at hMagnitude
    exact Nat.eq_of_mul_eq_mul_right (Nat.two_pow_pos _) hMagnitude
  have hNegative : x.negative = y.negative := by
    have hPositive : x.magnitude ≠ 0 := by
      rw [← natAbs_scaled]
      omega
    rw [scaled, scaled, ← hMagnitude] at h
    cases hx : x.negative <;> cases hy : y.negative <;> simp [hx, hy] at h ⊢ <;> omega
  cases x
  cases y
  simp_all

end Binary64

namespace Number

open Binary64

variable {x y : Binary64}

theorem ofBinary64_of_scaled {value : Int} {range} (h : x.scaled = value * unit)
    (hBound : value.natAbs < 0x20000000000000) : ofBinary64 x = .integer value range := by
  have hTruncate := truncate_of_scaled h
  rw [ofBinary64, hTruncate, if_pos ⟨isIntegral_of_scaled h, hBound⟩, ofInt?, dif_pos range]
  rfl

theorem ofBinary64_of_large (h : 0x20000000000000 * unit ≤ x.magnitude) :
    ofBinary64 x = .float x := by
  have hBound : 0x20000000000000 ≤ x.truncate.natAbs := by
    rw [natAbs_truncate]
    exact (Nat.le_div_iff_mul_le unit_pos).mpr h
  rw [ofBinary64, if_neg fun hSmall => Nat.not_lt.mpr hBound hSmall.2]

/-- Two floats of one value become one number, for both zeros become the integer. -/
theorem ofBinary64_congr (h : x.scaled = y.scaled) : ofBinary64 x = ofBinary64 y := by
  by_cases hZero : x.scaled = 0
  · have hRange : -0x8000000000000000 ≤ (0 : Int) ∧ (0 : Int) < 0x10000000000000000 := by decide
    have hInteger : ∀ z : Binary64, z.scaled = 0 → ofBinary64 z = .integer 0 hRange := fun z hz =>
      ofBinary64_of_scaled (by rw [hz, Int.zero_mul]) (by decide)
    rw [hInteger x hZero, hInteger y (h ▸ hZero)]
  · rw [eq_of_scaled_eq h hZero]

/-- What becomes of a float to which an integer is rounded. -/
theorem ofBinary64_of_rounded {value : Int} {range}
    (h : (integer value range).toBinary64.scaled = x.scaled) :
    ofBinary64 x = if value.natAbs < 0x20000000000000 then .integer value range else .float x := by
  split
  · rename_i hSmall
    rw [scaled_toBinary64 (Nat.le_of_lt hSmall)] at h
    exact ofBinary64_of_scaled h.symm hSmall
  · rename_i hLarge
    obtain ⟨bound, hBound⟩ := exists_magnitude_eq (Nat.le_refl 0x20000000000000)
    apply ofBinary64_of_large
    rw [← x.natAbs_scaled, ← h, natAbs_scaled, ← hBound]
    apply le_magnitude_toBinary64
    rw [hBound, units, Int.natAbs_mul, Int.natAbs_natCast]
    exact Nat.mul_le_mul_right _ (Nat.not_lt.mp hLarge)

end Number

end ParamTree
