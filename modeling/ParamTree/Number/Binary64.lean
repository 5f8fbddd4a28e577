/-!
# Finite binary64 numbers

A finite binary64 number is a sign, a significand of at most 53 binary digits and a scale; its
magnitude is `significand * 2 ^ scale` in units of `2 ^ -1074`. Every operation takes the exact
result as a fraction and rounds it once, to the nearest number and on a tie to the even significand.
Main statement: rounding finds a number for every magnitude below a power of two up to `2 ^ 1023`.
-/

namespace ParamTree

/-- Significands of fewer than 53 binary digits occur at the smallest scale only, so each magnitude
is written in one way. -/
structure Binary64 where
  negative : Bool
  significand : Nat
  scale : Nat
  valid : significand < 0x20000000000000 ∧ scale ≤ 2045 ∧
    (0x10000000000000 ≤ significand ∨ scale = 0)
deriving DecidableEq

namespace Binary64

def unitExponent : Nat := 1074

/-- The unit of all magnitudes is the reciprocal of this number. -/
def unit : Nat := 1 <<< unitExponent

def magnitude (x : Binary64) : Nat :=
  x.significand <<< x.scale

def scaled (x : Binary64) : Int :=
  if x.negative then -(x.magnitude : Int) else x.magnitude

def toRat (x : Binary64) : Rat :=
  mkRat x.scaled unit

def isZero (x : Binary64) : Bool :=
  x.significand = 0

def withSign (negative : Bool) (x : Binary64) : Binary64 :=
  ⟨negative, x.significand, x.scale, x.valid⟩

def neg (x : Binary64) : Binary64 :=
  x.withSign (!x.negative)

def zero : Binary64 :=
  ⟨false, 0, 0, by decide⟩

/-- The integer nearest to `a / d`, the even one of two. -/
def roundQuotient (a d : Nat) : Nat :=
  if 2 * (a % d) < d ∨ (2 * (a % d) = d ∧ a / d % 2 = 0) then a / d else a / d + 1

/-- The smallest scale at which the integer part `n` has at most 53 binary digits. -/
def scaleFor (n : Nat) : Nat :=
  n.log2 - 52

def ofParts? (negative : Bool) (significand scale : Nat) : Option Binary64 :=
  if h : significand < 0x20000000000000 ∧ scale ≤ 2045 ∧
      (0x10000000000000 ≤ significand ∨ scale = 0) then
    some ⟨negative, significand, scale, h⟩
  else
    none

/-- The number nearest to `numerator / denominator`, or `none` beyond the largest one. -/
def nearest? (negative : Bool) (numerator denominator : Nat) : Option Binary64 :=
  let scale := scaleFor (numerator * unit / denominator)
  let significand := roundQuotient (numerator * unit) (denominator <<< scale)
  if significand = 0x20000000000000 then
    ofParts? negative 0x10000000000000 (scale + 1)
  else
    ofParts? negative significand scale

def ofFraction? (numerator : Int) (denominator : Nat) : Option Binary64 :=
  nearest? (numerator < 0) numerator.natAbs denominator

def ofInt? (n : Int) : Option Binary64 :=
  ofFraction? n 1

def add? (x y : Binary64) : Option Binary64 :=
  ofFraction? (x.scaled + y.scaled) unit

def sub? (x y : Binary64) : Option Binary64 :=
  ofFraction? (x.scaled - y.scaled) unit

def mul? (x y : Binary64) : Option Binary64 :=
  ofFraction? (x.scaled * y.scaled) (unit * unit)

def div? (x y : Binary64) : Option Binary64 :=
  ofFraction? (x.scaled * y.scaled.sign) y.magnitude

/-- The remainder of the division whose quotient is cut off toward zero. -/
def rem? (x y : Binary64) : Option Binary64 :=
  ofFraction? (x.scaled.tmod y.scaled) unit

def compareValue (x y : Binary64) : Ordering :=
  compare x.scaled y.scaled

def isIntegral (x : Binary64) : Bool :=
  x.magnitude % unit = 0

def truncate (x : Binary64) : Int :=
  x.scaled.tdiv unit

theorem natAbs_scaled (x : Binary64) : x.scaled.natAbs = x.magnitude := by
  simp only [scaled]
  split <;> simp

theorem roundQuotient_le {a d n : Nat} (hd : 0 < d) (h : a ≤ n * d) : roundQuotient a d ≤ n := by
  have hdiv : a / d ≤ n := Nat.div_le_of_le_mul (by rw [Nat.mul_comm]; exact h)
  rw [roundQuotient]
  split
  · exact hdiv
  · rename_i hr
    have hlt : a / d ≠ n := by
      intro he
      have hmod : a % d = 0 := by
        have := Nat.div_add_mod a d
        rw [he, Nat.mul_comm] at this
        omega
      apply hr
      rw [hmod]
      exact Or.inl (by omega)
    omega

theorem le_roundQuotient {a d n : Nat} (hd : 0 < d) (h : n * d ≤ a) : n ≤ roundQuotient a d := by
  have hdiv : n ≤ a / d := (Nat.le_div_iff_mul_le hd).mpr h
  rw [roundQuotient]
  split <;> omega

theorem lt_shiftLeft_scaleFor (n : Nat) : n < 0x20000000000000 <<< scaleFor n := by
  rw [Nat.shiftLeft_eq, show 0x20000000000000 = 2 ^ 53 from rfl, ← Nat.pow_add]
  apply Nat.lt_of_lt_of_le (Nat.lt_log2_self (n := n))
  exact Nat.pow_le_pow_right (by decide) (by simp only [scaleFor]; omega)

theorem shiftLeft_scaleFor_le {n : Nat} (h : scaleFor n ≠ 0) :
    0x10000000000000 <<< scaleFor n ≤ n := by
  have hn : n ≠ 0 := by
    intro he
    subst he
    exact h (by decide)
  rw [Nat.shiftLeft_eq, show 0x10000000000000 = 2 ^ 52 from rfl, ← Nat.pow_add]
  have hlog : 52 + scaleFor n = n.log2 := by simp only [scaleFor] at h ⊢; omega
  rw [hlog]
  exact Nat.log2_self_le hn

theorem ofParts?_isSome {negative : Bool} {significand scale : Nat}
    (h : significand < 0x20000000000000 ∧ scale ≤ 2045 ∧
      (0x10000000000000 ≤ significand ∨ scale = 0)) :
    (ofParts? negative significand scale).isSome = true := by
  rw [ofParts?, dif_pos h]
  rfl

theorem nearest?_isSome {negative : Bool} {numerator denominator e : Nat} (he : e ≤ 1023)
    (hd : 0 < denominator) (h : numerator < denominator <<< e) :
    (nearest? negative numerator denominator).isSome = true := by
  rw [Nat.shiftLeft_eq] at h
  have hunit : unit = 2 ^ unitExponent := Nat.one_shiftLeft unitExponent
  have hq : numerator * unit / denominator < 2 ^ (e + unitExponent) := by
    rw [Nat.div_lt_iff_lt_mul hd, Nat.pow_add, hunit, Nat.mul_right_comm,
      Nat.mul_comm _ denominator]
    exact Nat.mul_lt_mul_of_pos_right h (Nat.two_pow_pos unitExponent)
  have hscale : scaleFor (numerator * unit / denominator) ≤ 2044 := by
    rcases Nat.eq_zero_or_pos (numerator * unit / denominator) with hz | hp
    · rw [hz]
      decide
    · have := (Nat.log2_lt (by omega)).mpr hq
      simp only [scaleFor]
      simp only [unitExponent] at this
      omega
  simp only [nearest?]
  generalize hs : scaleFor (numerator * unit / denominator) = s at hscale ⊢
  have hpos : 0 < denominator <<< s := by
    rw [Nat.shiftLeft_eq]
    exact Nat.mul_pos hd (Nat.two_pow_pos s)
  have hhi : roundQuotient (numerator * unit) (denominator <<< s) ≤ 0x20000000000000 := by
    apply roundQuotient_le hpos
    have := lt_shiftLeft_scaleFor (numerator * unit / denominator)
    rw [hs, Nat.div_lt_iff_lt_mul hd, Nat.shiftLeft_eq] at this
    rw [Nat.shiftLeft_eq, Nat.mul_comm denominator, ← Nat.mul_assoc]
    exact Nat.le_of_lt this
  split
  · exact ofParts?_isSome ⟨by decide, by omega, Or.inl (by decide)⟩
  · rename_i hne
    refine ofParts?_isSome ⟨by omega, by omega, ?_⟩
    rcases Nat.eq_zero_or_pos s with hz | hp
    · exact Or.inr hz
    · left
      apply le_roundQuotient hpos
      have := shiftLeft_scaleFor_le (by omega : scaleFor (numerator * unit / denominator) ≠ 0)
      rw [hs, Nat.le_div_iff_mul_le hd, Nat.shiftLeft_eq] at this
      rw [Nat.shiftLeft_eq, Nat.mul_comm denominator, ← Nat.mul_assoc]
      exact this

theorem ofInt?_isSome {n : Int} (h : n.natAbs ≤ 0x10000000000000000) : (ofInt? n).isSome = true :=
  nearest?_isSome (by decide : 65 ≤ 1023) Nat.one_pos (by omega)

end Binary64

end ParamTree
