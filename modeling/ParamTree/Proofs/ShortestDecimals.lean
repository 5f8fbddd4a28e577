import ParamTree.Proofs.Rounding

/-!
# Shortest decimals

The decimal that is written for a finite number reads back as its magnitude, whether a few digits do
or all of them are needed. Main statements: `toBinary64?_mul_pow`, by which zeros at the end of the
digits are as good as a larger exponent, and `toBinary64?_shortest`.
-/

namespace ParamTree.Decimal

variable {digits : Nat} {x : Binary64} {d : Decimal}

theorem toDigits_mul_pow (h : digits ≠ 0) (count : Nat) :
    Nat.toDigits 10 (digits * Nat.pow 10 count) =
      Nat.toDigits 10 digits ++ List.replicate count '0' := by
  induction count with
  | zero => simp
  | succ count ih =>
    have hPos : 0 < digits * Nat.pow 10 count :=
      Nat.mul_pos (Nat.pos_of_ne_zero h) (Nat.pow_pos (by decide))
    have hNext : digits * Nat.pow 10 (count + 1) = 10 * (digits * Nat.pow 10 count) + 0 := by
      rw [Nat.add_zero, Nat.mul_comm 10, Nat.mul_assoc]
      rfl
    have hZero : Nat.toDigits 10 0 = ['0'] := rfl
    rw [hNext, ← Nat.toDigits_append_toDigits (by decide) hPos (by decide), ih, hZero,
      List.append_assoc, List.replicate_succ']

theorem point_mul_pow (h : digits ≠ 0) (count : Nat) (exponent : Int) :
    point ⟨digits * Nat.pow 10 count, exponent⟩ = point ⟨digits, exponent + count⟩ := by
  simp only [point, length, toDigits_mul_pow h, List.length_append, List.length_replicate]
  omega

theorem toBinary64?_mul_pow (h : digits ≠ 0) (count : Nat) (exponent : Int) :
    toBinary64? ⟨digits * Nat.pow 10 count, exponent⟩ =
      toBinary64? ⟨digits, exponent + count⟩ := by
  have hPower : ∀ n, 0 < Nat.pow 10 n := fun n => Nat.pow_pos (by decide)
  have hNe : digits * Nat.pow 10 count ≠ 0 := Nat.mul_ne_zero h (Nat.ne_of_gt (hPower count))
  have hExponents : count + exponent.toNat + (-(exponent + count)).toNat =
      (exponent + count).toNat + (-exponent).toNat := by
    omega
  have hFractions : digits * Nat.pow 10 count * Nat.pow 10 exponent.toNat *
      Nat.pow 10 (-(exponent + count)).toNat =
      digits * Nat.pow 10 (exponent + count).toNat * Nat.pow 10 (-exponent).toNat := by
    simp only [Nat.pow_eq, Nat.mul_assoc, ← Nat.pow_add]
    rw [hExponents]
  simp only [toBinary64?, hNe, h, point_mul_pow h, false_or]
  rw [Binary64.nearest?_congr (hPower _) (hPower _) hFractions]

theorem toBinary64?_stripZeros (digits : Nat) (exponent : Int) :
    (stripZeros digits exponent).toBinary64? = toBinary64? ⟨digits, exponent⟩ := by
  fun_induction stripZeros digits exponent with
  | case1 digits exponent h ih =>
    have hDigits : digits = digits / 10 * Nat.pow 10 1 := by
      change digits = digits / 10 * 10
      omega
    have hNe : digits / 10 ≠ 0 := by omega
    have hMoved := toBinary64?_mul_pow hNe 1 exponent
    rw [← hDigits] at hMoved
    exact ih.trans hMoved.symm
  | case2 => rfl

theorem toBinary64?_of_ofCount? {count : Nat} (h : ofCount? x count = some d) :
    d.toBinary64? = some (x.withSign false) := by
  apply of_decide_eq_true
  change d.readsAs x = true
  simp only [ofCount?] at h
  split at h
  · -- both neighbours read back, and rounding chooses one of them
    rename_i hBoth
    obtain ⟨hLow, hHigh⟩ := Bool.and_eq_true_iff.mp hBoth
    cases h
    rw [Binary64.roundQuotient]
    split
    · exact hLow
    · exact hHigh
  · split at h
    · cases h
      assumption
    · split at h
      · cases h
        assumption
      · cases h

theorem length_le_iff (d : Decimal) {count : Nat} (h : 0 < count) :
    d.length ≤ count ↔ d.digits < Nat.pow 10 count :=
  Nat.length_toDigits_le_iff (by decide) h

theorem magnitude_ne_zero (h : x.isZero = false) : x.magnitude ≠ 0 :=
  Binary64.shiftLeft_ne_zero (of_decide_eq_false h) x.scale

theorem magnitude_lt (x : Binary64) : x.magnitude < 0x20000000000000 <<< 2045 := by
  have hPower : ∀ n, 0 < 2 ^ n := Nat.two_pow_pos
  rw [Binary64.magnitude, Nat.shiftLeft_eq, Nat.shiftLeft_eq]
  calc x.significand * 2 ^ x.scale
      < 0x20000000000000 * 2 ^ x.scale := Nat.mul_lt_mul_of_pos_right x.valid.1 (hPower _)
    _ ≤ 0x20000000000000 * 2 ^ 2045 :=
      Nat.mul_le_mul_left _ (Nat.pow_le_pow_right (by decide) x.valid.2.1)

/-- The decimals with all digits are far from those that are decided without their powers. -/
theorem point_allDigits (h : x.isZero = false) :
    -400 ≤ (allDigits x).point ∧ (allDigits x).point ≤ 400 := by
  have hFive : ∀ n, 0 < Nat.pow 5 n := fun _ => Nat.pow_pos (by decide)
  obtain ⟨low, hLow, hLarge⟩ : ∃ low ≥ 674, Nat.pow 10 low ≤ Nat.pow 5 Binary64.unitExponent :=
    ⟨674, by decide, by decide +kernel⟩
  obtain ⟨high, ⟨hPos, hHigh⟩, hSmall⟩ : ∃ high, (0 < high ∧ high ≤ 1474) ∧
      0x20000000000000 <<< 2045 * Nat.pow 5 Binary64.unitExponent < Nat.pow 10 high :=
    ⟨1474, by decide, by decide +kernel⟩
  have hAbove : Nat.pow 10 low ≤ (allDigits x).digits :=
    Nat.le_trans hLarge (Nat.le_mul_of_pos_left _ (Nat.pos_of_ne_zero (magnitude_ne_zero h)))
  have hBelow : (allDigits x).digits < Nat.pow 10 high :=
    Nat.lt_trans (Nat.mul_lt_mul_of_pos_right (magnitude_lt x) (hFive _)) hSmall
  have hMore : ¬(allDigits x).length ≤ low := fun hFew =>
    Nat.not_lt.mpr hAbove ((length_le_iff _ (by omega)).mp hFew)
  have hAtMost : (allDigits x).length ≤ high := (length_le_iff _ hPos).mpr hBelow
  have hExponent : (allDigits x).exponent = -1074 := rfl
  simp only [point, hExponent]
  omega

theorem toBinary64?_allDigits (h : x.isZero = false) :
    (allDigits x).toBinary64? = some (x.withSign false) := by
  have hPoint := point_allDigits h
  have hNe : (allDigits x).digits ≠ 0 := by
    have hFive : ∀ n, Nat.pow 5 n ≠ 0 := fun _ => Nat.ne_of_gt (Nat.pow_pos (by decide))
    exact Nat.mul_ne_zero (magnitude_ne_zero h) (hFive _)
  have hTens : Nat.pow 5 Binary64.unitExponent * Binary64.unit =
      Nat.pow 10 Binary64.unitExponent := by
    decide +kernel
  have hExact : (allDigits x).digits * Nat.pow 10 (allDigits x).exponent.toNat * Binary64.unit =
      x.magnitude * Nat.pow 10 (-(allDigits x).exponent).toNat := by
    change x.magnitude * Nat.pow 5 Binary64.unitExponent * 1 * Binary64.unit =
      x.magnitude * Nat.pow 10 Binary64.unitExponent
    rw [Nat.mul_one, Nat.mul_assoc, hTens]
  rw [toBinary64?, if_neg (by omega), if_neg (by omega)]
  exact Binary64.nearest?_of_eq (Nat.pow_pos (by decide)) hExact false

/-- The decimal that is written for a number reads back as its magnitude. -/
theorem toBinary64?_shortest (h : x.isZero = false) :
    (shortest x).toBinary64? = some (x.withSign false) := by
  rw [shortest, toBinary64?_stripZeros]
  cases hFound : (List.range 17).findSome? (fun i => ofCount? x (i + 1)) with
  | none => exact toBinary64?_allDigits h
  | some d =>
    obtain ⟨_, _, hCount⟩ := List.exists_of_findSome?_eq_some hFound
    exact toBinary64?_of_ofCount? hCount

theorem digits_shortest_ne_zero (h : x.isZero = false) : (shortest x).digits ≠ 0 := by
  intro hZero
  have hReads := toBinary64?_shortest h
  rw [toBinary64?, if_pos (.inl hZero)] at hReads
  have hSignificand : 0 = x.significand := congrArg Binary64.significand (Option.some.inj hReads)
  exact of_decide_eq_false h hSignificand.symm

end ParamTree.Decimal
