import ParamTree.Json.Printer
import ParamTree.Proofs.TokenEnds

/-!
# Printed scalars as tokens

How the tokens of an expression read what the printer of values writes. Strings keep their content
as long as neither backspace nor form feed is in them: those are printed with escapes that
expressions do not have. Main statements: `spells_string` and `spells_digits`.
-/

namespace ParamTree

/-- The text holds no character that is printed with an escape of its own and not read back. -/
def Text.HasSharedEscapes (text : String) : Prop :=
  ∀ c ∈ text.toList, c ≠ '\x08' ∧ c ≠ '\x0c'

theorem isDigit_toDigits (n : Nat) : ∀ c ∈ Nat.toDigits 10 n, c.isDigit = true :=
  fun _ hc => Nat.isDigit_of_mem_toDigits (by decide) (by decide) hc

namespace Lexer

open Json

variable {rest : List Char} {others : List Token}

theorem escapeCode?_hexFour : ∀ code < 0x20, escapeCode? (Text.hexFour code) = some code := by
  decide

theorem utf8Size_hexFour {code : Nat} (h : code < 0x20) :
    ∀ c ∈ Text.hexFour code, c.utf8Size = 1 := by
  have hAll : ∀ code < 0x20, (Text.hexFour code).all (fun c => c.utf8Size = 1) = true := by
    decide
  simpa using hAll code h

theorem readEscape_hexFour {c : Char} (h : c.toNat < 0x20) (rest : List Char) :
    readEscape (Text.hexFour c.toNat ++ rest) = .ok c := by
  have hDigits : Text.takeBytes? 4 (Text.hexFour c.toNat ++ rest) = some (Text.hexFour c.toNat) :=
    takeBytes?_append (utf8Size_hexFour h)
  have hScalar : scalar? c.toNat = some c := by
    rw [scalar?, if_pos (show c.toNat.isValidChar from c.valid), Char.ofNat_toNat]
  simp only [readEscape, hDigits, escapeCode?_hexFour _ h, hScalar]

/-- A character is read back from what is printed for it. -/
theorem readString_escapeChar {c : Char} (h : c ≠ '\x08' ∧ c ≠ '\x0c') (start rest : List Char) :
    readString '"' start (escapeChar c ++ rest) =
      (readString '"' start rest).map (putFirst c) := by
  have hShort : ∀ e, e ≠ 'u' → shortEscape? e = some c →
      readString '"' start ('\\' :: e :: rest) =
        (readString '"' start rest).map (putFirst c) := by
    intro e hNe hEscape
    rw [readString_escape (by decide), if_neg hNe, hEscape]
  unfold escapeChar
  split
  · subst c
    exact hShort '"' (by decide) rfl
  split
  · subst c
    exact hShort '\\' (by decide) rfl
  split
  · subst c
    exact hShort 'n' (by decide) rfl
  split
  · subst c
    exact hShort 'r' (by decide) rfl
  split
  · subst c
    exact hShort 't' (by decide) rfl
  rw [if_neg h.1, if_neg h.2]
  split
  · rename_i hCode
    change readString '"' start ('\\' :: 'u' :: (Text.hexFour c.toNat ++ rest)) = _
    rw [readString_escape (by decide), if_pos rfl, readEscape_hexFour hCode]
    rfl
  · rename_i hQuote hBackslash _ _ _ _
    exact readString_plain hQuote hBackslash start rest

theorem readString_printed {content : List Char} (h : ∀ c ∈ content, c ≠ '\x08' ∧ c ≠ '\x0c')
    (start rest : List Char) :
    readString '"' start (content.flatMap escapeChar ++ '"' :: rest) = .ok (content, rest) := by
  induction content with
  | nil => exact readString_end '"' start rest
  | cons c content ih =>
    obtain ⟨hFirst, hContent⟩ := List.forall_mem_cons.mp h
    rw [List.flatMap_cons, List.append_assoc, readString_escapeChar hFirst, ih hContent]
    rfl

theorem spells_string {text : String} (hText : Text.HasSharedEscapes text)
    (h : Spells rest others) : Spells (stringChars text ++ rest) (.string text :: others) := by
  have hChars : stringChars text ++ rest =
      '"' :: (text.toList.flatMap escapeChar ++ '"' :: rest) := by
    simp [stringChars]
  have hToken : readToken '"' (text.toList.flatMap escapeChar ++ '"' :: rest) =
      .ok (.string text, rest) := by
    simp [readToken, simpleSymbol?, readString_printed hText, Except.map]
  rw [hChars]
  exact .token rfl hToken h

/-- What follows a printed value: nothing, or a sign that separates items or ends them. -/
def Delimited (rest : List Char) : Prop :=
  ∀ c ∈ rest.head?, c = ',' ∨ c = ']' ∨ c = '\x7d'

theorem delimited_cons {c : Char} (h : c ∈ [',', ']', '\x7d']) (rest : List Char) :
    Delimited (c :: rest) := by
  rintro d hd
  cases hd
  simpa using h

theorem breaks_of_delimited (h : Delimited rest) : Breaks rest := by
  intro c hc
  obtain rfl | rfl | rfl := h c hc
  · decide
  · decide
  · decide

theorem numeralSpan_digits {digits : List Char} (hDigits : ∀ c ∈ digits, c.isDigit = true)
    (hRest : Breaks rest) : numeralSpan (digits ++ rest) = (digits, rest) := by
  have hWhole : digitSpan digits = (digits, []) := by
    rw [digitSpan, List.takeWhile_eq_self_iff.mpr hDigits, List.dropWhile_eq_nil_iff.mpr hDigits]
  have hAlone : numeralSpan digits = (digits, []) := by
    simp [numeralSpan, hWhole, fractionSpan, exponentSpan]
  rw [leaves_numeralSpan hRest, hAlone]
  rfl

theorem not_isBlank_decimalDigit {c : Char} (h : c ∈ decimalDigits) : Text.isBlank c = false := by
  have hAll : decimalDigits.all (fun c => !Text.isBlank c) = true := by
    decide
  simpa using List.all_eq_true.mp hAll c h

theorem readToken_decimalDigit (rest : List Char) :
    ∀ c ∈ decimalDigits, readToken c rest = readNumber c rest := by
  simp [decimalDigits, readToken, simpleSymbol?]

theorem ofNumeral?_toDigits {count : Nat} (h : count < 0x8000000000000000) :
    Number.ofNumeral? (Nat.toDigits 10 count) = some (.ofNat count) := by
  have hDigits : (Nat.toDigits 10 count).all Char.isDigit = true :=
    List.all_eq_true.mpr (isDigit_toDigits count)
  have hSigned : Number.ofSigned? count = some (.ofNat count) := by
    have hMin : min count 0xffffffffffffffff = count := by omega
    have hBound : (count : Int) < 0x8000000000000000 := by omega
    have hRange : -0x8000000000000000 ≤ (count : Int) ∧ (count : Int) < 0x10000000000000000 := by
      omega
    simp [Number.ofSigned?, Number.ofInt?, Number.ofNat, hMin, hBound, hRange]
  simp only [Number.ofNumeral?, hDigits, if_true, Nat.ofDigitChars_ten_toDigits, hSigned]

theorem spells_digits {count : Nat} (hCount : count < 0x8000000000000000)
    (hRest : Delimited rest) (h : Spells rest others) :
    Spells (Nat.toDigits 10 count ++ rest) (.number (.ofNat count) :: others) := by
  have hDigits := isDigit_toDigits count
  have hNumber := ofNumeral?_toDigits hCount
  cases hChars : Nat.toDigits 10 count with
  | nil => exact absurd hChars Nat.toDigits_ne_nil
  | cons first digits =>
    rw [hChars] at hDigits hNumber
    obtain ⟨hFirst, hOthers⟩ := List.forall_mem_cons.mp hDigits
    have hMem := mem_decimalDigits hFirst
    have hToken : readToken first (digits ++ rest) = .ok (.number (.ofNat count), rest) := by
      rw [readToken_decimalDigit _ first hMem, readNumber,
        numeralSpan_digits hOthers (breaks_of_delimited hRest)]
      simp only [hNumber]
    have hBlank := not_isBlank_decimalDigit hMem
    exact .token (List.dropWhile_cons_of_neg (by simp [hBlank])) hToken h

end Lexer

end ParamTree
