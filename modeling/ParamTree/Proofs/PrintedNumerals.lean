import ParamTree.Json.Source
import ParamTree.Proofs.PrintedTokens
import ParamTree.Proofs.ShortestDecimals

/-!
# Printed numbers as numerals

The numeral that a JSON reader finds where a number is printed. It keeps the kind of the number, and
the decimal that it writes is rounded to the number again, so no two numbers have one numeral. Main
statements: `readNumeral_chars` and `Number.numeral_injective`.
-/

namespace ParamTree

namespace Numeral

def fractionChars : List Char → List Char
  | [] => []
  | digits => '.' :: digits

def exponentChars : Option Int → List Char
  | none => []
  | some value => 'e' :: (if value < 0 then '-' else '+') :: Nat.toDigits 10 value.natAbs

def unsignedChars (numeral : Numeral) : List Char :=
  numeral.whole ++ fractionChars numeral.fraction ++ exponentChars numeral.exponent

def chars (numeral : Numeral) : List Char :=
  if numeral.negative then '-' :: numeral.unsignedChars else numeral.unsignedChars

/-- No zero stands in front of another digit. -/
structure IsPlain (numeral : Numeral) : Prop where
  leading : numeral.whole = ['0'] ∨ ∃ first ∈ numeral.whole.head?, first ≠ '0'
  digits : ∀ c ∈ numeral.whole ++ numeral.fraction, c.isDigit = true

/-- The decimal that the numeral writes, its sign apart. -/
def toDecimal (numeral : Numeral) : Decimal :=
  ⟨Nat.ofDigitChars 10 (numeral.whole ++ numeral.fraction) 0,
    numeral.exponent.getD 0 - numeral.fraction.length⟩

theorem head?_chars {numeral : Numeral} (h : numeral.IsPlain) :
    ∃ c ∈ numeral.chars.head?, c = '-' ∨ c.isDigit = true := by
  rw [chars]
  split
  · exact ⟨'-', rfl, .inl rfl⟩
  · obtain ⟨first, hFirst⟩ : ∃ first, first ∈ numeral.whole.head? := by
      obtain hZero | ⟨first, hFirst, -⟩ := h.leading
      · exact ⟨'0', by rw [hZero]; rfl⟩
      · exact ⟨first, hFirst⟩
    obtain ⟨others, hOthers⟩ := List.head?_eq_some_iff.mp hFirst
    refine ⟨first, ?_, .inr (h.digits first ?_)⟩
    · rw [unsignedChars, hOthers]
      rfl
    · rw [hOthers]
      exact List.mem_cons_self

end Numeral

namespace Source

open Lexer Numeral

variable {digits rest : List Char}

theorem readDigits_append (hNe : digits ≠ []) (hDigits : ∀ c ∈ digits, c.isDigit = true)
    (hRest : ∀ c ∈ rest.head?, c.isDigit = false) :
    readDigits (digits ++ rest) = some (digits, rest) := by
  have hTaken : (digits ++ rest).takeWhile Char.isDigit = digits := by
    rw [takeWhile_append_tail hRest, List.takeWhile_eq_self_iff.mpr hDigits]
  have hLeft : (digits ++ rest).dropWhile Char.isDigit = rest := by
    rw [dropWhile_append_tail hRest, List.dropWhile_eq_nil_iff.mpr hDigits, List.nil_append]
  simp only [readDigits, hTaken, hLeft]

theorem readWhole_append (hLeading : digits = ['0'] ∨ ∃ first ∈ digits.head?, first ≠ '0')
    (hDigits : ∀ c ∈ digits, c.isDigit = true) (hRest : ∀ c ∈ rest.head?, c.isDigit = false) :
    readWhole (digits ++ rest) = some (digits, rest) := by
  obtain rfl | ⟨first, hFirst, hNe⟩ := hLeading
  · rfl
  · obtain ⟨others, rfl⟩ := List.head?_eq_some_iff.mp hFirst
    have hRead := readDigits_append (List.cons_ne_nil first others) hDigits hRest
    rw [List.cons_append] at hRead ⊢
    rw [readWhole]
    · exact hRead
    · intro _ hZero
      exact hNe (List.cons.inj hZero).1

theorem readFraction_append (hDigits : ∀ c ∈ digits, c.isDigit = true)
    (hRest : ∀ c ∈ rest.head?, c.isDigit = false ∧ c ≠ '.') :
    readFraction (fractionChars digits ++ rest) = some (digits, rest) := by
  cases digits with
  | nil =>
    rw [fractionChars, List.nil_append, readFraction]
    rintro others rfl
    exact (hRest '.' rfl).2 rfl
  | cons first others =>
    exact readDigits_append (List.cons_ne_nil first others) hDigits fun c hc => (hRest c hc).1

theorem isDigit_of_delimited (h : Delimited rest) : ∀ c ∈ rest.head?, c.isDigit = false :=
  fun c hc => isDigit_of_endsToken (breaks_of_delimited h c hc)

theorem readExponent_append (value : Option Int) (hRest : Delimited rest) :
    readExponent (exponentChars value ++ rest) = some (value, rest) := by
  cases value with
  | none =>
    cases rest with
    | nil => rfl
    | cons c rest =>
      have hNot : ¬(c = 'e' ∨ c = 'E') := by
        obtain rfl | rfl | rfl := hRest c rfl
        · decide
        · decide
        · decide
      simp only [exponentChars, List.nil_append, readExponent, if_neg hNot]
  | some value =>
    have hRead : readDigits (Nat.toDigits 10 value.natAbs ++ rest) =
        some (Nat.toDigits 10 value.natAbs, rest) :=
      readDigits_append Nat.toDigits_ne_nil (isDigit_toDigits _) (isDigit_of_delimited hRest)
    generalize hSize : value.natAbs = size at hRead
    by_cases hNegative : value < 0
    · have hValue : -(size : Int) = value := by omega
      simp [exponentChars, readExponent, readSign, hNegative, hSize, hRead, hValue]
    · have hValue : (size : Int) = value := by omega
      simp [exponentChars, readExponent, readSign, hNegative, hSize, hRead, hValue]

theorem head?_exponentChars (value : Option Int) (hRest : Delimited rest) :
    ∀ c ∈ (exponentChars value ++ rest).head?, c.isDigit = false ∧ c ≠ '.' := by
  intro c hc
  cases value with
  | none =>
    obtain rfl | rfl | rfl := hRest c hc
    · decide
    · decide
    · decide
  | some value =>
    cases hc
    decide

/-- A numeral is read up to the sign behind it. -/
theorem readNumeral_chars {numeral : Numeral} (h : numeral.IsPlain) (hRest : Delimited rest) :
    readNumeral (numeral.chars ++ rest) = some (numeral, rest) := by
  obtain ⟨negative, whole, fraction, exponent⟩ := numeral
  obtain ⟨hLeading, hDigits⟩ := h
  dsimp only at hLeading hDigits
  obtain ⟨hWhole, hFraction⟩ := List.forall_mem_append.mp hDigits
  have hBehind : ∀ c ∈ (fractionChars fraction ++ (exponentChars exponent ++ rest)).head?,
      c.isDigit = false := by
    intro c hc
    cases fraction with
    | nil => exact (head?_exponentChars exponent hRest c hc).1
    | cons first others =>
      cases hc
      decide
  have hReadWhole := readWhole_append hLeading hWhole hBehind
  have hReadFraction := readFraction_append hFraction (head?_exponentChars exponent hRest)
  have hReadExponent := readExponent_append exponent hRest
  cases negative with
  | true =>
    simp [chars, unsignedChars, readNumeral, hReadWhole, hReadFraction, hReadExponent]
  | false =>
    have hUnsigned : ∀ others, whole ++ (fractionChars fraction ++ (exponentChars exponent ++
        rest)) ≠ '-' :: others := by
      intro others hMinus
      cases whole with
      | nil => simp at hLeading
      | cons first digits =>
        have hFirst := hWhole first List.mem_cons_self
        rw [(List.cons.inj hMinus).1] at hFirst
        exact absurd hFirst (by decide)
    simp only [chars, unsignedChars, readNumeral, Bool.false_eq_true, if_false,
      List.append_assoc, hReadWhole, hReadFraction, hReadExponent]

end Source

theorem head?_toDigits {n : Nat} (h : n ≠ 0) :
    ∃ first ∈ (Nat.toDigits 10 n).head?, first ≠ '0' := by
  induction n using Nat.strongRecOn with
  | ind n ih =>
    by_cases hOne : n < 10
    · refine ⟨n.digitChar, ?_, ?_⟩
      · rw [Nat.toDigits_of_lt_base hOne]
        rfl
      · rwa [Ne, Nat.digitChar_eq_zero]
    · obtain ⟨first, hFirst, hNe⟩ := ih (n / 10) (by omega) (by omega)
      refine ⟨first, ?_, hNe⟩
      rw [Nat.toDigits_of_base_le (by decide) (by omega), List.head?_append, hFirst]
      rfl

theorem leading_toDigits (n : Nat) :
    Nat.toDigits 10 n = ['0'] ∨ ∃ first ∈ (Nat.toDigits 10 n).head?, first ≠ '0' := by
  by_cases h : n = 0
  · subst h
    exact .inl rfl
  · exact .inr (head?_toDigits h)

namespace Decimal

variable {d : Decimal}

/-- The parts of the text that is written for a decimal. -/
def numeral (d : Decimal) : Numeral :=
  let digits := Nat.toDigits 10 d.digits
  if -4 ≤ d.point ∧ d.point ≤ 16 then
    if d.point ≤ 0 then
      ⟨false, ['0'], zeros (-d.point) ++ digits, none⟩
    else if d.point < d.length then
      ⟨false, digits.take d.point.toNat, digits.drop d.point.toNat, none⟩
    else
      ⟨false, digits ++ zeros d.exponent, ['0'], none⟩
  else
    ⟨false, digits.take 1, digits.drop 1, some (d.point - 1)⟩

theorem fractionChars_of_ne_nil {digits : List Char} (h : digits ≠ []) :
    Numeral.fractionChars digits = '.' :: digits := by
  cases digits with
  | nil => exact absurd rfl h
  | cons => rfl

theorem unsignedChars_numeral (d : Decimal) : d.numeral.unsignedChars = d.chars := by
  have hDigits : Nat.toDigits 10 d.digits ≠ [] := Nat.toDigits_ne_nil
  simp only [chars, numeral]
  split
  · rw [positional]
    split
    · simp [Numeral.unsignedChars, fractionChars_of_ne_nil, hDigits, Numeral.exponentChars]
    · split
      · rename_i hPoint hBefore
        have hRest : (Nat.toDigits 10 d.digits).drop d.point.toNat ≠ [] := by
          rw [Ne, List.drop_eq_nil_iff]
          simp only [length] at hBefore
          omega
        simp [Numeral.unsignedChars, fractionChars_of_ne_nil hRest, Numeral.exponentChars]
      · simp [Numeral.unsignedChars, Numeral.fractionChars, Numeral.exponentChars]
  · have hSign : d.point - 1 < 0 ↔ d.point ≤ 0 := by omega
    rw [scientific]
    split
    · rename_i hShort
      have hTake : (Nat.toDigits 10 d.digits).take 1 = Nat.toDigits 10 d.digits :=
        List.take_of_length_le hShort
      have hDrop : (Nat.toDigits 10 d.digits).drop 1 = [] := List.drop_eq_nil_of_le hShort
      simp [Numeral.unsignedChars, Numeral.fractionChars, Numeral.exponentChars, hTake, hDrop,
        hSign]
    · rename_i hLong
      have hRest : (Nat.toDigits 10 d.digits).drop 1 ≠ [] := by
        rw [Ne, List.drop_eq_nil_iff]
        exact hLong
      rw [List.drop_one] at hRest
      simp [Numeral.unsignedChars, fractionChars_of_ne_nil hRest, Numeral.exponentChars, hSign]

theorem isDigit_zeros (count : Int) : ∀ c ∈ zeros count, c.isDigit = true := by
  intro c hc
  rw [List.eq_of_mem_replicate hc]
  decide

theorem isPlain_numeral (h : d.digits ≠ 0) : d.numeral.IsPlain := by
  have hDigits := isDigit_toDigits d.digits
  obtain ⟨first, hFirst, hNe⟩ := head?_toDigits h
  obtain ⟨others, hOthers⟩ := List.head?_eq_some_iff.mp hFirst
  have hTake : ∀ count ≠ 0, first ∈ ((Nat.toDigits 10 d.digits).take count).head? := by
    intro count hCount
    rwa [List.head?_take, if_neg hCount]
  have hParts : ∀ count, ∀ c ∈ (Nat.toDigits 10 d.digits).take count ++
      (Nat.toDigits 10 d.digits).drop count, c.isDigit = true := by
    intro count
    rwa [List.take_append_drop]
  rw [numeral]
  split
  · split
    · refine ⟨.inl rfl, ?_⟩
      simp only [List.forall_mem_append, List.forall_mem_singleton]
      exact ⟨by decide, isDigit_zeros _, hDigits⟩
    · split
      · exact ⟨.inr ⟨first, hTake _ (by omega), hNe⟩, hParts _⟩
      · refine ⟨.inr ⟨first, ?_, hNe⟩, ?_⟩
        · rw [hOthers]
          rfl
        · simp only [List.forall_mem_append, List.forall_mem_singleton]
          exact ⟨⟨hDigits, isDigit_zeros _⟩, by decide⟩
  · exact ⟨.inr ⟨first, hTake 1 (by decide), hNe⟩, hParts 1⟩

theorem ofDigitChars_zeros (count : Int) (digits : List Char) :
    Nat.ofDigitChars 10 (zeros count ++ digits) 0 = Nat.ofDigitChars 10 digits 0 := by
  rw [Nat.ofDigitChars_append, zeros, Nat.ofDigitChars_replicate_zero, Nat.mul_zero]

theorem toDecimal_eq {numeral : Numeral}
    (hDigits : Nat.ofDigitChars 10 (numeral.whole ++ numeral.fraction) 0 = d.digits)
    (hExponent : numeral.exponent.getD 0 - numeral.fraction.length = d.exponent) :
    numeral.toDecimal = d := by
  rw [Numeral.toDecimal, hDigits, hExponent]

/-- The text of a decimal, read with all its digits, stands for the number of the decimal. -/
theorem toBinary64?_numeral (h : d.digits ≠ 0) :
    d.numeral.toDecimal.toBinary64? = d.toBinary64? := by
  have hLength : (Nat.toDigits 10 d.digits).length = d.length := rfl
  have hPoint : d.point = d.length + d.exponent := rfl
  have hPos : 0 < d.length := Nat.length_toDigits_pos
  rw [numeral]
  split
  · split
    · apply congrArg toBinary64? (toDecimal_eq _ _)
      · change Nat.ofDigitChars 10 (zeros (-d.point) ++ Nat.toDigits 10 d.digits) 0 = d.digits
        rw [ofDigitChars_zeros, Nat.ofDigitChars_ten_toDigits]
      · simp only [Option.getD_none, List.length_append, zeros, List.length_replicate]
        omega
    · split
      · apply congrArg toBinary64? (toDecimal_eq _ _)
        · rw [List.take_append_drop, Nat.ofDigitChars_ten_toDigits]
        · simp only [Option.getD_none, List.length_drop]
          omega
      · -- the zero behind the point counts as a digit
        have hDecimal : Numeral.toDecimal
            ⟨false, Nat.toDigits 10 d.digits ++ zeros d.exponent, ['0'], none⟩ =
            ⟨d.digits * Nat.pow 10 (d.exponent.toNat + 1), -1⟩ := by
          apply toDecimal_eq
          · rw [Nat.ofDigitChars_append, Nat.ofDigitChars_append, Nat.ofDigitChars_ten_toDigits,
              zeros, Nat.ofDigitChars_replicate_zero, Nat.pow_eq, Nat.pow_succ]
            change 10 * (10 ^ d.exponent.toNat * d.digits) + 0 = _
            rw [Nat.add_zero, Nat.mul_comm, Nat.mul_comm _ d.digits, Nat.mul_assoc]
          · rfl
        have hExponent : -1 + ((d.exponent.toNat + 1 : Nat) : Int) = d.exponent := by omega
        rw [hDecimal, toBinary64?_mul_pow h, hExponent]
  · apply congrArg toBinary64? (toDecimal_eq _ _)
    · rw [List.take_append_drop, Nat.ofDigitChars_ten_toDigits]
    · simp only [Option.getD_some, List.length_drop]
      omega

theorem fraction_or_exponent_numeral (d : Decimal) :
    d.numeral.fraction ≠ [] ∨ d.numeral.exponent ≠ none := by
  rw [numeral]
  split
  · left
    split
    · simp
    · split
      · have hLength : (Nat.toDigits 10 d.digits).length = d.length := rfl
        rw [Ne, List.drop_eq_nil_iff]
        omega
      · simp
  · simp

end Decimal

namespace Binary64

/-- The parts of the text that is written for a finite number. -/
def numeral (x : Binary64) : Numeral :=
  let unsigned := if x.isZero then ⟨false, ['0'], ['0'], none⟩ else (Decimal.shortest x).numeral
  { unsigned with negative := x.negative }

theorem chars_numeral (x : Binary64) : x.numeral.chars = x.chars := by
  have hUnsigned : x.numeral.unsignedChars =
      if x.isZero then ['0', '.', '0'] else (Decimal.shortest x).chars := by
    cases hZero : x.isZero with
    | true =>
      simp [numeral, hZero, Numeral.unsignedChars, Numeral.fractionChars, Numeral.exponentChars]
    | false =>
      rw [← Decimal.unsignedChars_numeral]
      simp [numeral, hZero, Numeral.unsignedChars]
  rw [Numeral.chars, hUnsigned, chars]
  rfl

theorem isPlain_numeral (x : Binary64) : x.numeral.IsPlain := by
  cases hZero : x.isZero with
  | true =>
    rw [numeral, hZero]
    exact ⟨.inl rfl, by simp⟩
  | false =>
    have hPlain := Decimal.isPlain_numeral (Decimal.digits_shortest_ne_zero hZero)
    rw [numeral, hZero]
    exact ⟨hPlain.leading, hPlain.digits⟩

/-- A printed float shows that it is one. -/
theorem fraction_or_exponent_numeral (x : Binary64) :
    x.numeral.fraction ≠ [] ∨ x.numeral.exponent ≠ none := by
  cases hZero : x.isZero with
  | true => simp [numeral, hZero]
  | false =>
    rw [numeral, hZero]
    exact (Decimal.shortest x).fraction_or_exponent_numeral

theorem withSign_of_isZero {x : Binary64} (h : x.isZero = true) (negative : Bool) :
    x.withSign negative = zero.withSign negative := by
  obtain ⟨_, significand, scale, valid⟩ := x
  obtain rfl : significand = 0 := of_decide_eq_true h
  obtain rfl : scale = 0 := by omega
  rfl

/-- The text of a finite number, read with all its digits, stands for the number. -/
theorem toBinary64?_numeral (x : Binary64) :
    x.numeral.toDecimal.toBinary64? = some (x.withSign false) := by
  cases hZero : x.isZero with
  | true =>
    rw [numeral, hZero, withSign_of_isZero hZero]
    rfl
  | false =>
    rw [numeral, hZero]
    exact (Decimal.toBinary64?_numeral (Decimal.digits_shortest_ne_zero hZero)).trans
      (Decimal.toBinary64?_shortest hZero)

theorem numeral_injective {x y : Binary64} (h : x.numeral = y.numeral) : x = y := by
  have hUnsigned : x.withSign false = y.withSign false := by
    apply Option.some.inj
    rw [← toBinary64?_numeral, ← toBinary64?_numeral, h]
  have hSign : x.negative = y.negative := congrArg Numeral.negative h
  calc x = (x.withSign false).withSign x.negative := rfl
    _ = (y.withSign false).withSign y.negative := by rw [hUnsigned, hSign]
    _ = y := rfl

end Binary64

namespace Number

def numeral : Number → Numeral
  | .integer value _ => ⟨value < 0, Nat.toDigits 10 value.natAbs, [], none⟩
  | .float value => value.numeral

theorem chars_numeral (n : Number) : n.numeral.chars = n.chars := by
  cases n with
  | integer value range =>
    simp [numeral, Numeral.chars, Numeral.unsignedChars, Numeral.fractionChars,
      Numeral.exponentChars, chars, intChars]
  | float value => exact value.chars_numeral

theorem isPlain_numeral (n : Number) : n.numeral.IsPlain := by
  cases n with
  | integer value range =>
    refine ⟨leading_toDigits _, ?_⟩
    rw [numeral, List.append_nil]
    exact isDigit_toDigits _
  | float value => exact value.isPlain_numeral

/-- Integers and floats that are printed with one numeral are the same number. -/
theorem numeral_injective {m n : Number} (h : m.numeral = n.numeral) : m = n := by
  cases m with
  | integer value range =>
    cases n with
    | integer other otherRange =>
      simp only [numeral, Numeral.mk.injEq, decide_eq_decide, and_true] at h
      obtain ⟨hSign, hDigits⟩ := h
      have hAbs : value.natAbs = other.natAbs := by
        rw [← @Nat.ofDigitChars_ten_toDigits value.natAbs, hDigits, Nat.ofDigitChars_ten_toDigits]
      obtain rfl : value = other := by omega
      rfl
    | float other =>
      have hKind := other.fraction_or_exponent_numeral
      rw [← show _ = other.numeral from h] at hKind
      simp [numeral] at hKind
  | float value =>
    cases n with
    | integer other otherRange =>
      have hKind := value.fraction_or_exponent_numeral
      rw [show value.numeral = _ from h] at hKind
      simp [numeral] at hKind
    | float other => rw [Binary64.numeral_injective h]

end Number

end ParamTree
