import ParamTree.Config.Document
import ParamTree.Proofs.PrintedValues

/-!
# Configurations through their documents

The document of a configuration is read back as the configuration: integers keep their value, texts
their characters, and the delimiters of the document go before those of its dialect. Main statement:
`Config.ofDocument?_document_iff`.
-/

namespace ParamTree

namespace Numeral

theorem le_ofDigitChars (digits : List Char) (start : Nat) :
    start ≤ Nat.ofDigitChars 10 digits start := by
  induction digits generalizing start with
  | nil => exact Nat.le_refl start
  | cons c digits ih =>
    rw [Nat.ofDigitChars_cons]
    have hMore := ih (10 * start + (c.toNat - '0'.toNat))
    omega

/-- Digits are taken to the end where 64 bits hold all of them. -/
theorem absorb_eq {digits : List Char} {start : Nat}
    (h : Nat.ofDigitChars 10 digits start < UInt64.size) :
    absorb start digits = (Nat.ofDigitChars 10 digits start, digits.length) := by
  induction digits generalizing start with
  | nil => rfl
  | cons c digits ih =>
    rw [Nat.ofDigitChars_cons, Nat.mul_comm 10] at h
    have hNext := Nat.lt_of_le_of_lt (le_ofDigitChars digits _) h
    rw [Nat.ofDigitChars_cons, Nat.mul_comm 10, absorb]
    simp only [hNext, if_true, ih h, List.length_cons]

end Numeral

/-- Integers keep their value on the way through their text. -/
theorem Number.toNumber?_numeral (value : Int) (range) :
    (Number.integer value range).numeral.toNumber? = some (.integer value range) := by
  have hSize : value.natAbs < UInt64.size := by
    have hBits : UInt64.size = 0x10000000000000000 := rfl
    omega
  have hDigits : Numeral.absorb 0 (Nat.toDigits 10 value.natAbs) =
      (value.natAbs, (Nat.toDigits 10 value.natAbs).length) := by
    have hAll := @Numeral.absorb_eq (Nat.toDigits 10 value.natAbs) 0
    rw [Nat.ofDigitChars_ten_toDigits] at hAll
    exact hAll hSize
  generalize hSizeOf : value.natAbs = size at hDigits
  by_cases hNegative : value < 0
  · have hValue : -(size : Int) = value := by omega
    have hNe : size ≠ 0 := by omega
    simp [numeral, Numeral.toNumber?, hSizeOf, hDigits, Numeral.absorb, hNegative, hNe, hValue,
      ofInt?, range]
  · have hValue : (size : Int) = value := by omega
    simp [numeral, Numeral.toNumber?, hSizeOf, hDigits, Numeral.absorb, hNegative, hValue, ofInt?,
      range]

namespace Source

open StringUnit

/-- All fields are known and occur once, so all of them are kept. -/
theorem knownFields?_spelled {names : List String} {fields : List (String × Json)}
    (hKnown : ∀ field ∈ fields, field.1 ∈ names) (hNodup : (Entries.keys fields).Nodup) :
    knownFields? names (Json.spelledFields fields) =
      some (Entries.mapValues Json.spelled fields) := by
  induction fields with
  | nil => rfl
  | cons field fields ih =>
    obtain ⟨hName, hNames⟩ := List.forall_mem_cons.mp hKnown
    obtain ⟨hNot, hOthers⟩ := List.nodup_cons.mp hNodup
    have hNew : field.1 ∉ Entries.keys (Entries.mapValues Json.spelled fields) := by
      rwa [Entries.keys_mapValues]
    simp only [Json.spelledFields, knownFields?, text?_ofText, ih hNames hOthers, if_pos hName,
      if_neg hNew]
    rfl

theorem text?_spelled (text : String) : (Json.string text).spelled.text? = some text :=
  text?_ofText text

theorem choice?_spelled (text : String) : (Json.string text).spelled.choice? = some text :=
  text?_ofText text

theorem unsigned?_spelled (count : UInt64) :
    (Json.ofNat count.toNat).spelled.unsigned? = some count := by
  have hSize : count.toNat ≤ 0xffffffffffffffff := Nat.le_of_lt_succ count.toNat_lt
  have hCount : min count.toNat 0xffffffffffffffff = count.toNat := Nat.min_eq_left hSize
  change ((Number.ofNat count.toNat).numeral.toNumber?.bind Number.unsigned?).map UInt64.ofNat =
    some count
  rw [Number.ofNat, Number.toNumber?_numeral]
  simp [Number.unsigned?, hCount]

end Source

theorem Dialect.ofName?_name (dialect : Dialect) : ofName? dialect.name = some dialect := by
  cases dialect <;> rfl

theorem Policy.ofName?_name (policy : Policy) : ofName? policy.name = some policy := by
  cases policy <;> rfl

theorem Delimiters.ofSource?_spelled (delimiters : Delimiters) :
    ofSource? delimiters.toJson.spelled =
      (make delimiters.opening delimiters.closing).toOption := by
  have hKnown := @Source.knownFields?_spelled ["open", "close"]
    [("open", .string delimiters.opening), ("close", .string delimiters.closing)] (by simp)
    (by simp [Entries.keys])
  have hSpelled : delimiters.toJson.spelled = .object (Json.spelledFields _) := rfl
  rw [hSpelled, ofSource?, hKnown]
  change ofSources? (Json.string delimiters.opening).spelled
    (Json.string delimiters.closing).spelled = _
  rw [ofSources?, Source.text?_spelled, Source.text?_spelled]
  rfl

namespace Config

theorem delimiters?_spelled (delimiters : Delimiters) :
    delimiters? delimiters.toJson.spelled =
      ((Delimiters.make delimiters.opening delimiters.closing).toOption).map some := by
  rw [← Delimiters.ofSource?_spelled]
  rfl

theorem ofSource?_spelled (config : Config) :
    ofSource? config.toJson.spelled =
      ofParts? (some (Json.string config.dialect.name).spelled)
        (some config.delimiters.toJson.spelled) (some (Json.string config.policy.name).spelled)
        (some (Json.ofNat config.timeoutMs.toNat).spelled) := by
  have hKnown := @Source.knownFields?_spelled
    ["dialect", "delimiters", "policy", "timeout_ms"]
    [("dialect", .string config.dialect.name), ("delimiters", config.delimiters.toJson),
      ("policy", .string config.policy.name), ("timeout_ms", .ofNat config.timeoutMs.toNat)]
    (by simp) (by simp [Entries.keys])
  have hSpelled : config.toJson.spelled = .object (Json.spelledFields _) := rfl
  rw [hSpelled, ofSource?, hKnown]
  rfl

/-- A configuration comes back from its document, and only one with an empty delimiter does not. -/
theorem ofDocument?_document_iff (config : Config) :
    ofDocument? config.document = some config ↔
      config.delimiters.opening ≠ "" ∧ config.delimiters.closing ≠ "" := by
  have hRead : ofDocument? config.document =
      (Delimiters.make config.delimiters.opening config.delimiters.closing).toOption.map
        fun delimiters => { config with delimiters := delimiters } := by
    rw [ofDocument?, document, Source.ofText?_compact, Option.bind_some, ofSource?_spelled,
      ofParts?]
    simp only [part?, Source.choice?_spelled, Dialect.ofName?_name, Policy.ofName?_name,
      Source.unsigned?_spelled, delimiters?_spelled, Option.bind_some]
    cases Delimiters.make config.delimiters.opening config.delimiters.closing <;> rfl
  rw [hRead]
  constructor
  · intro hSome
    obtain ⟨delimiters, hMake, -⟩ := Option.map_eq_some_iff.mp hSome
    cases hResult : Delimiters.make config.delimiters.opening config.delimiters.closing with
    | error failure =>
      rw [hResult] at hMake
      cases hMake
    | ok made => exact (Delimiters.make_eq_ok_iff.mp hResult).1
  · rintro ⟨hOpening, hClosing⟩
    rw [Delimiters.make_eq_ok hOpening hClosing]
    rfl

end Config

end ParamTree
