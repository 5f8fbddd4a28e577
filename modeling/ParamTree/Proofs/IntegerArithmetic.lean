import ParamTree.Proofs.ExactComparison
import ParamTree.Value.Arithmetic

/-!
# Arithmetic on integers

On integers of 64 bits with a sign every operation gives the exact integer wherever it is one of
them, and nothing fails but a division by zero. What leaves these integers on the way is computed in
binary64, where it stays finite. Main statement: `Json.integer_arithmetic_exact`.
-/

namespace ParamTree

/-- The result `r` of the operation on two integers. A remainder leaves a multiple of the divisor, is
smaller than it and has no other sign than the dividend. -/
def Arithmetic.Gives : Arithmetic → Int → Int → Int → Prop
  | add, x, y, r => r = x + y
  | sub, x, y, r => r = x - y
  | mul, x, y, r => r = x * y
  | div, x, y, r => y ≠ 0 ∧ r * y = x
  | rem, x, y, r => y ∣ x - r ∧ r.natAbs < y.natAbs ∧ 0 ≤ x * r

theorem Arithmetic.eq_tmod_of_gives {x y r : Int} (h : rem.Gives x y r) : r = x.tmod y := by
  obtain ⟨hMultiple, hLess, hSign⟩ := h
  have hDvd : y ∣ r - x.tmod y := by
    have hMod : y ∣ x - x.tmod y := Int.dvd_self_sub_tmod
    have hDifference := Int.dvd_sub hMod hMultiple
    rwa [show x - x.tmod y - (x - r) = r - x.tmod y by omega] at hDifference
  have hRemainder : (x.tmod y).natAbs < y.natAbs := by
    rw [Int.natAbs_tmod]
    exact Nat.mod_lt _ (by omega)
  -- neither has another sign than the dividend, so they are less than the divisor apart
  have hClose : (r - x.tmod y).natAbs < y.natAbs := by
    obtain hNegative | rfl | hPositive := Int.lt_trichotomy x 0
    · have hr : r ≤ 0 := by
        by_contra hNot
        exact absurd (Int.mul_neg_of_neg_of_pos hNegative (by omega : 0 < r)) (by omega)
      have hMod := Int.tmod_nonneg y (by omega : 0 ≤ -x)
      rw [Int.neg_tmod] at hMod
      omega
    · simpa using hLess
    · have hr : 0 ≤ r := by
        by_contra hNot
        exact absurd (Int.mul_neg_of_pos_of_neg hPositive (by omega : r < 0)) (by omega)
      have hMod := Int.tmod_nonneg y (by omega : 0 ≤ x)
      omega
  have hZero := Int.eq_zero_of_dvd_of_natAbs_lt_natAbs hDvd hClose
  omega

namespace Number

/-- An integer that 64 bits with a sign hold. -/
def ofInt64 (x : Int64) : Number :=
  .integer x.toInt (by
    have hLower := x.le_toInt
    have hUpper := x.toInt_lt
    omega)

section Signed

variable (x y : Int64)

@[simp] theorem signed?_ofInt64 : (ofInt64 x).signed? = some x.toInt :=
  signed?_eq_some_iff.mpr ⟨_, rfl, x.toInt_lt⟩

theorem ofSigned?_toInt : ofSigned? x.toInt = some (ofInt64 x) := by
  have hLower := x.le_toInt
  have hUpper := x.toInt_lt
  have hBound : x.toInt < 0x8000000000000000 := hUpper
  have hRange : -0x8000000000000000 ≤ x.toInt ∧ x.toInt < 0x10000000000000000 := by omega
  rw [ofSigned?, if_pos hBound, ofInt?, dif_pos hRange, ofInt64]

theorem isZero_ofInt64 : (ofInt64 x).isZero = decide (x = 0) := by
  rw [ofInt64, isZero.eq_def, ← Int64.toInt_zero]
  exact decide_eq_decide.mpr Int64.toInt_inj

theorem natAbs_units_ofInt64 :
    (ofInt64 x).units.natAbs = x.toInt.natAbs * Binary64.unit := by
  rw [ofInt64, units, Int.natAbs_mul, Int.natAbs_natCast]

/-- What the operations come to, of which the floats take no part unless the integers give none. -/
theorem arithmetic_ofInt64 (op : Arithmetic) :
    arithmetic op (ofInt64 x) (ofInt64 y) =
      if (op = .div ∨ op = .rem) ∧ y = 0 then .error .divisionByZero
      else match signedResult? op x.toInt y.toInt with
        | some n => .ok n
        | none =>
          match rounded? op (ofInt64 x).toBinary64 (ofInt64 y).toBinary64 with
          | some z => .ok (ofBinary64 z)
          | none => .error .notFinite := by
  have hZero : (ofInt64 y).isZero = true ↔ y = 0 := by
    rw [isZero_ofInt64, decide_eq_true_eq]
  rw [arithmetic, exactResult?, signed?_ofInt64, signed?_ofInt64]
  exact if_congr (and_congr_right fun _ => hZero) rfl rfl

end Signed

/-- A quotient is too large only if the least integer is divided by the opposite of one. -/
theorem isSome_ofSigned?_tdiv {x y : Int64} (h : ¬(x = Int64.minValue ∧ y = -1)) :
    (ofSigned? (x.toInt.tdiv y.toInt)).isSome = true := by
  have hLower := x.le_toInt
  have hUpper := x.toInt_lt
  have hQuotient := Int.natAbs_tdiv_le_natAbs x.toInt y.toInt
  have hFits : x.toInt.tdiv y.toInt < 0x8000000000000000 := by
    by_cases hUnit : y.toInt.natAbs = 1
    · obtain hy | hy := Int.natAbs_eq_iff.mp hUnit
      · rw [hy, Int.natCast_one, Int.tdiv_one]
        exact hUpper
      · have hx : x.toInt ≠ Int64.minValue.toInt := fun hx =>
          h ⟨Int64.toInt_inj.mp hx, Int64.toInt_inj.mp hy⟩
        have hLeast : Int64.minValue.toInt = -0x8000000000000000 := rfl
        rw [hy, Int.natCast_one, Int.tdiv_neg, Int.tdiv_one]
        omega
    · have hHalf : x.toInt.natAbs / y.toInt.natAbs ≤ x.toInt.natAbs / 2 := by
        by_cases hZero : y.toInt.natAbs = 0
        · rw [hZero, Nat.div_zero]
          exact Nat.zero_le _
        · exact Nat.div_le_div_left (by omega) Nat.two_pos
      have hAbs : (x.toInt.tdiv y.toInt).natAbs = x.toInt.natAbs / y.toInt.natAbs :=
        Int.natAbs_tdiv _ _
      omega
  have hRange : -0x8000000000000000 ≤ x.toInt.tdiv y.toInt ∧
      x.toInt.tdiv y.toInt < 0x10000000000000000 := by omega
  rw [ofSigned?, if_pos hFits, ofInt?, dif_pos hRange]
  rfl

theorem arithmetic_of_gives {op : Arithmetic} {x y r : Int64}
    (h : op.Gives x.toInt y.toInt r.toInt) :
    arithmetic op (ofInt64 x) (ofInt64 y) = .ok (ofInt64 r) := by
  have hExact (hResult : signedResult? op x.toInt y.toInt = some (ofInt64 r))
      (hNonzero : ¬((op = .div ∨ op = .rem) ∧ y = 0)) :
      arithmetic op (ofInt64 x) (ofInt64 y) = .ok (ofInt64 r) := by
    rw [arithmetic_ofInt64, if_neg hNonzero, hResult]
  cases op with
  | add | sub | mul =>
    refine hExact ?_ (by simp)
    rw [← ofSigned?_toInt, h]
    rfl
  | div =>
    obtain ⟨hy, hProduct⟩ := h
    refine hExact ?_ ?_
    · rw [signedResult?, ← hProduct, Int.mul_tmod_left, if_pos rfl, Int.mul_tdiv_cancel _ hy,
        ofSigned?_toInt]
    · rintro ⟨-, rfl⟩
      exact hy rfl
  | rem =>
    have hRemainder := Arithmetic.eq_tmod_of_gives h
    have hNonzero : ¬((Arithmetic.rem = .div ∨ Arithmetic.rem = .rem) ∧ y = 0) := by
      rintro ⟨-, rfl⟩
      exact Nat.not_lt_zero _ h.2.1
    by_cases hLeast : x = Int64.minValue ∧ y = -1
    · -- the quotient is too large, and the remainder comes back from a zero of the floats
      obtain ⟨rfl, rfl⟩ := hLeast
      obtain rfl : r = 0 := Int64.toInt_inj.mp hRemainder
      decide +kernel
    · obtain ⟨quotient, hQuotient⟩ := Option.isSome_iff_exists.mp (isSome_ofSigned?_tdiv hLeast)
      refine hExact ?_ hNonzero
      rw [signedResult?, hQuotient, Option.bind_some, ← hRemainder, ofSigned?_toInt]

section Floats

theorem magnitude_ofInt64_le (x : Int64) :
    (ofInt64 x).toBinary64.magnitude ≤ 0x8000000000000000 * Binary64.unit := by
  have hLower := x.le_toInt
  have hUpper := x.toInt_lt
  have hAbs : x.toInt.natAbs ≤ 0x8000000000000000 := by omega
  let bound : Binary64 := ⟨false, 0x10000000000000, 1085, by decide⟩
  have hBound : bound.magnitude = 0x8000000000000000 * Binary64.unit := by
    decide +kernel
  rw [← hBound]
  apply magnitude_toBinary64_le
  rw [natAbs_units_ofInt64, hBound]
  exact Nat.mul_le_mul_right _ hAbs

theorem unit_le_magnitude_ofInt64 {x : Int64} (h : x ≠ 0) :
    Binary64.unit ≤ (ofInt64 x).toBinary64.magnitude := by
  have hNonzero : x.toInt ≠ 0 := fun hx => h (Int64.toInt_inj.mp hx)
  have hAbs : 1 ≤ x.toInt.natAbs := by omega
  obtain ⟨one, hOne⟩ := Binary64.exists_magnitude_eq (by decide : 1 ≤ 0x20000000000000)
  rw [Nat.one_mul] at hOne
  rw [← hOne]
  apply le_magnitude_toBinary64
  rw [natAbs_units_ofInt64, hOne]
  exact Nat.le_mul_of_pos_left _ hAbs

/-- Floats of such a size are far from overflow, and division by none below one does not take them
there. -/
theorem isSome_rounded? {op : Arithmetic} {x y : Binary64}
    (hx : x.magnitude ≤ 0x8000000000000000 * Binary64.unit)
    (hy : y.magnitude ≤ 0x8000000000000000 * Binary64.unit)
    (hDivisor : op = .div ∨ op = .rem → Binary64.unit ≤ y.magnitude) :
    (rounded? op x y).isSome = true := by
  have hUnit := Binary64.unit_pos
  have hxAbs := x.natAbs_scaled
  have hyAbs := y.natAbs_scaled
  cases op with
  | add =>
    apply Binary64.nearest?_isSome (by decide : 65 ≤ 1023) hUnit
    rw [Nat.shiftLeft_eq]
    omega
  | sub =>
    apply Binary64.nearest?_isSome (by decide : 65 ≤ 1023) hUnit
    rw [Nat.shiftLeft_eq]
    omega
  | mul =>
    have hSquare := Nat.mul_pos hUnit hUnit
    apply Binary64.nearest?_isSome (by decide : 127 ≤ 1023) hSquare
    rw [Int.natAbs_mul, hxAbs, hyAbs, Nat.shiftLeft_eq]
    calc x.magnitude * y.magnitude
      _ ≤ 0x8000000000000000 * Binary64.unit * (0x8000000000000000 * Binary64.unit) :=
        Nat.mul_le_mul hx hy
      _ = Binary64.unit * Binary64.unit * (0x8000000000000000 * 0x8000000000000000) := by
        rw [Nat.mul_mul_mul_comm, Nat.mul_comm]
      _ < Binary64.unit * Binary64.unit * 2 ^ 127 :=
        Nat.mul_lt_mul_of_pos_left (by decide) hSquare
  | div =>
    have hPositive := hDivisor (.inl rfl)
    apply Binary64.nearest?_isSome (by decide : 64 ≤ 1023) (Nat.lt_of_lt_of_le hUnit hPositive)
    have hSign : y.scaled.sign.natAbs ≤ 1 := by
      rw [Int.natAbs_sign]
      split <;> decide
    have hProduct := Nat.mul_le_mul_left x.magnitude hSign
    rw [Int.natAbs_mul, hxAbs, Nat.shiftLeft_eq]
    omega
  | rem =>
    apply Binary64.nearest?_isSome (by decide : 64 ≤ 1023) hUnit
    have hRemainder := Nat.mod_le x.magnitude y.magnitude
    rw [Int.natAbs_tmod, hxAbs, hyAbs, Nat.shiftLeft_eq]
    omega

theorem arithmetic_eq_error_iff {op : Arithmetic} {x y : Int64} {fault : Fault} :
    arithmetic op (ofInt64 x) (ofInt64 y) = .error fault ↔
      fault = .divisionByZero ∧ (op = .div ∨ op = .rem) ∧ y = 0 := by
  rw [arithmetic_ofInt64]
  by_cases hZero : (op = .div ∨ op = .rem) ∧ y = 0
  · rw [if_pos hZero, Except.error.injEq, and_iff_left hZero]
    exact eq_comm
  · have hDivisor : op = .div ∨ op = .rem → Binary64.unit ≤ (ofInt64 y).toBinary64.magnitude :=
      fun hOp => unit_le_magnitude_ofInt64 fun hy => hZero ⟨hOp, hy⟩
    obtain ⟨z, hz⟩ := Option.isSome_iff_exists.mp
      (isSome_rounded? (magnitude_ofInt64_le x) (magnitude_ofInt64_le y) hDivisor)
    rw [if_neg hZero, hz]
    refine iff_of_false ?_ (fun h => hZero h.2)
    split <;> nofun

end Floats

theorem negate_ofInt64 {x r : Int64} (h : r.toInt = -x.toInt) :
    (ofInt64 x).negate = ofInt64 r := by
  rw [negate, signed?_ofInt64, Option.bind_some, ← h, ofSigned?_toInt]

end Number

/-- On integers of 64 bits with a sign an operation gives the exact result if it is one of them, and
fails only where zero divides. The sign gives the exact opposite if it is one of them. -/
theorem Json.integer_arithmetic_exact (x y : Int64) :
    (∀ (op : Arithmetic) (r : Int64), op.Gives x.toInt y.toInt r.toInt →
      Json.arithmetic op (.number (.ofInt64 x)) (.number (.ofInt64 y)) =
        .ok (.number (.ofInt64 r))) ∧
    (∀ (op : Arithmetic) (fault : Fault),
      Json.arithmetic op (.number (.ofInt64 x)) (.number (.ofInt64 y)) = .error fault ↔
        fault = .divisionByZero ∧ (op = .div ∨ op = .rem) ∧ y = 0) ∧
    Fault.divisionByZero.message = "division by zero" ∧
    ∀ r : Int64, r.toInt = -x.toInt →
      Json.negate (.number (.ofInt64 x)) = .ok (.number (.ofInt64 r)) := by
  have hNumbers (op : Arithmetic) :
      Json.arithmetic op (.number (.ofInt64 x)) (.number (.ofInt64 y)) =
        (Number.arithmetic op (.ofInt64 x) (.ofInt64 y)).map .number := by
    simp [arithmetic, kind]
  refine ⟨?_, ?_, rfl, ?_⟩
  · intro op r h
    rw [hNumbers, Number.arithmetic_of_gives h]
    rfl
  · intro op fault
    rw [hNumbers, ← Number.arithmetic_eq_error_iff]
    cases Number.arithmetic op (.ofInt64 x) (.ofInt64 y) <;> simp [Except.map]
  · intro r h
    rw [Json.negate, Number.negate_ofInt64 h]

/-- The remainder of the least integer by the opposite of one is a zero that the floats come to. -/
theorem Json.integer_arithmetic_exact_least_integer :
    Arithmetic.rem.Gives Int64.minValue.toInt (-1 : Int64).toInt (0 : Int64).toInt ∧
    Number.exactResult? .rem (.ofInt64 Int64.minValue) (.ofInt64 (-1)) = none ∧
    Json.arithmetic .rem (.number (.ofInt64 Int64.minValue)) (.number (.ofInt64 (-1))) =
      .ok (.number (.ofInt64 0)) := by
  have hGives : Arithmetic.rem.Gives Int64.minValue.toInt (-1 : Int64).toInt
      (0 : Int64).toInt := by
    refine ⟨?_, ?_, ?_⟩ <;> decide
  refine ⟨hGives, by decide +kernel, ?_⟩
  exact (integer_arithmetic_exact Int64.minValue (-1)).1 .rem 0 hGives

end ParamTree
