import ParamTree.Expr.Lexer
import ParamTree.Template.Segment

/-!
# The characters of a token

What a token takes off the front of a text. Main statement: `lexeme_of_readToken`, which says of
every kind of token which characters it is made of.
-/

namespace ParamTree.Lexer

/-- The characters of the signs that are not simple. None of them is a bracket. -/
def isOperatorPart (c : Char) : Bool :=
  ['.', '<', '>', '!', '=', '&', '|'].contains c

def operatorSigns : List Symbol :=
  [.dot, .lt, .le, .gt, .ge, .bang, .eqEq, .notEq, .andAnd, .orOr]

def isNumeralPart (c : Char) : Bool :=
  c.isDigit || ['.', 'e', 'E', '+', '-'].contains c

/-- The token is the character and others behind it, in front of what is left. -/
inductive Lexeme (c : Char) (rest : List Char) : Token → List Char → Prop where
  | simple {sign} : simpleSymbol? c = some sign → Lexeme c rest (.symbol sign) rest
  | operator {sign others after} :
    sign ∈ operatorSigns → rest = others ++ after → (∀ d ∈ c :: others, isOperatorPart d = true) →
    Lexeme c rest (.symbol sign) after
  | number {value others after} :
    rest = others ++ after → (∀ d ∈ c :: others, isNumeralPart d = true) →
    Lexeme c rest (.number value) after
  | ident {name others after} :
    rest = others ++ after → (∀ d ∈ c :: others, isNamePart d = true) →
    Lexeme c rest (.ident name) after
  | string {content after} :
    isQuote c = true → readString c (c :: rest) rest = .ok (content, after) →
    Lexeme c rest (.string (String.ofList content)) after

def decimalDigits : List Char :=
  ['0', '1', '2', '3', '4', '5', '6', '7', '8', '9']

theorem mem_decimalDigits {c : Char} (h : c.isDigit = true) : c ∈ decimalDigits := by
  have hBounds : 48 ≤ c.toNat ∧ c.toNat ≤ 57 := by
    simpa [Char.isDigit, UInt32.le_iff_toNat_le] using h
  have hAll : ∀ code ≤ 57, 48 ≤ code → Char.ofNat code ∈ decimalDigits := by
    decide
  rw [← Char.ofNat_toNat c]
  exact hAll _ hBounds.2 hBounds.1

theorem numeralPart_of_isDigit {c : Char} (h : c.isDigit = true) : isNumeralPart c = true := by
  rw [isNumeralPart, h, Bool.true_or]

theorem numeralPart_digitSpan {text : List Char} {c : Char} (h : c ∈ (digitSpan text).1) :
    isNumeralPart c = true :=
  numeralPart_of_isDigit (List.all_eq_true.mp List.all_takeWhile c h)

theorem numeralPart_signSpan {text : List Char} {c : Char} (h : c ∈ (signSpan text).1) :
    isNumeralPart c = true := by
  cases text with
  | nil => cases h
  | cons d rest =>
    rw [signSpan] at h
    split at h
    · rename_i hSign
      obtain rfl := List.mem_singleton.mp h
      obtain rfl | rfl := hSign
      · decide
      · decide
    · cases h

theorem numeralPart_fractionSpan {text : List Char} {c : Char} (h : c ∈ (fractionSpan text).1) :
    isNumeralPart c = true := by
  cases text with
  | nil => cases h
  | cons d rest =>
    rw [fractionSpan] at h
    split at h
    · obtain rfl | hDigits := List.mem_cons.mp h
      · decide
      · exact numeralPart_digitSpan hDigits
    · cases h

theorem numeralPart_exponentSpan {text : List Char} {c : Char} (h : c ∈ (exponentSpan text).1) :
    isNumeralPart c = true := by
  cases text with
  | nil => cases h
  | cons d rest =>
    rw [exponentSpan] at h
    split at h
    · rename_i hLetter
      obtain hFront | hDigits := List.mem_append.mp h
      · obtain rfl | hSign := List.mem_cons.mp hFront
        · obtain ⟨rfl | rfl, -⟩ := hLetter
          · decide
          · decide
        · exact numeralPart_signSpan hSign
      · exact numeralPart_digitSpan hDigits
    · cases h

theorem numeralPart_numeralSpan {text : List Char} {c : Char} (h : c ∈ (numeralSpan text).1) :
    isNumeralPart c = true := by
  obtain hFront | hExponent := List.mem_append.mp h
  · obtain hWhole | hFraction := List.mem_append.mp hFront
    · exact numeralPart_digitSpan hWhole
    · exact numeralPart_fractionSpan hFraction
  · exact numeralPart_exponentSpan hExponent

theorem lexeme_of_readNumber {c : Char} {rest after : List Char} {token : Token}
    (hFirst : isNumeralPart c = true) (h : readNumber c rest = .ok (token, after)) :
    Lexeme c rest token after := by
  simp only [readNumber] at h
  split at h
  · cases h
    apply Lexeme.number (numeralSpan_append rest).symm
    intro d hd
    obtain rfl | hOther := List.mem_cons.mp hd
    · exact hFirst
    · exact numeralPart_numeralSpan hOther
  · cases h

theorem cons_of_eat? {c : Char} {text rest : List Char} (h : eat? c text = some rest) :
    text = c :: rest := by
  cases text with
  | nil => cases h
  | cons d tail =>
    rw [eat?] at h
    split at h
    · rename_i hEq
      cases h
      rw [hEq]
    · cases h

theorem namePart_of_isNameStart {c : Char} (h : isNameStart c = true) : isNamePart c = true := by
  simp only [isNameStart, Bool.or_eq_true] at h
  simp only [isNamePart, Bool.or_eq_true]
  obtain (h | h) | h := h
  · exact .inl (.inl (Text.isAlphanumeric_of_isAlphabetic h))
  · exact .inl (.inr h)
  · exact .inr h

def isEscapePart (c : Char) : Bool :=
  c = '+' || (Text.hexValue? c).isSome

theorem isEscapePart_of_ofHexDigits? {digits : List Char} {value code : Nat}
    (h : digits.foldlM (fun value c => (Text.hexValue? c).map (value * 16 + ·)) value = some code) :
    ∀ c ∈ digits, isEscapePart c = true := by
  induction digits generalizing value with
  | nil => exact nofun
  | cons c digits ih =>
    rw [List.foldlM_cons] at h
    obtain ⟨next, hNext, hDigits⟩ := Option.bind_eq_some_iff.mp h
    obtain ⟨digit, hDigit, -⟩ := Option.map_eq_some_iff.mp hNext
    refine List.forall_mem_cons.mpr ⟨?_, ih hDigits⟩
    rw [isEscapePart, hDigit]
    exact Bool.or_true _

theorem isEscapePart_of_escapeCode? {digits : List Char} {code : Nat}
    (h : escapeCode? digits = some code) : ∀ c ∈ digits, isEscapePart c = true := by
  unfold escapeCode? at h
  split at h
  · exact List.forall_mem_cons.mpr ⟨rfl, isEscapePart_of_ofHexDigits? h⟩
  · exact isEscapePart_of_ofHexDigits? h

theorem utf8Size_of_isEscapePart {c : Char} (h : isEscapePart c = true) : c.utf8Size = 1 := by
  rw [Char.utf8Size_eq_one_iff]
  simp only [isEscapePart, Text.hexValue?, Bool.or_eq_true, decide_eq_true_eq] at h
  obtain rfl | h := h
  · decide
  split at h
  · rename_i hDigit
    simp only [Char.isDigit, Bool.and_eq_true, decide_eq_true_eq] at hDigit
    exact UInt32.le_trans hDigit.2 (by decide)
  split at h
  · rename_i hLower
    exact UInt32.le_trans hLower.2 (by decide)
  split at h
  · rename_i hUpper
    exact UInt32.le_trans hUpper.2 (by decide)
  · cases h

theorem eq_append_of_takeBytes? {count : Nat} {text digits : List Char}
    (h : Text.takeBytes? count text = some digits) (hSize : ∀ c ∈ digits, c.utf8Size = 1) :
    text = digits ++ text.drop count ∧ digits.length = count := by
  induction text generalizing count digits with
  | nil =>
    cases count with
    | zero =>
      cases h
      exact ⟨rfl, rfl⟩
    | succ count => cases h
  | cons c text ih =>
    cases count with
    | zero =>
      cases h
      exact ⟨rfl, rfl⟩
    | succ count =>
      rw [Text.takeBytes?] at h
      split at h
      · obtain ⟨others, hOthers, rfl⟩ := Option.map_eq_some_iff.mp h
        obtain ⟨hFirst, hSize⟩ := List.forall_mem_cons.mp hSize
        rw [hFirst, Nat.add_sub_cancel] at hOthers
        obtain ⟨hText, hLength⟩ := ih hOthers hSize
        exact ⟨congrArg (c :: ·) hText, congrArg Nat.succ hLength⟩
      · cases h

theorem takeBytes?_append {digits rest : List Char} (h : ∀ c ∈ digits, c.utf8Size = 1) :
    Text.takeBytes? digits.length (digits ++ rest) = some digits := by
  induction digits with
  | nil =>
    cases rest <;> rfl
  | cons c digits ih =>
    obtain ⟨hFirst, hDigits⟩ := List.forall_mem_cons.mp h
    rw [List.length_cons, List.cons_append, Text.takeBytes?, hFirst, if_pos (Nat.le_add_left 1 _),
      Nat.add_sub_cancel, ih hDigits]
    rfl

/-- A hexadecimal escape takes four characters off the front, of a few kinds. -/
theorem digits_of_readEscape {text : List Char} {c : Char} (h : readEscape text = .ok c) :
    ∃ digits, Text.takeBytes? 4 text = some digits ∧ text = digits ++ text.drop 4 ∧
      digits.length = 4 ∧ ∀ d ∈ digits, isEscapePart d = true := by
  unfold readEscape at h
  split at h
  · cases h
  rename_i digits hDigits
  split at h
  · cases h
  rename_i code hCode
  have hParts := isEscapePart_of_escapeCode? hCode
  obtain ⟨hText, hLength⟩ :=
    eq_append_of_takeBytes? hDigits fun d hd => utf8Size_of_isEscapePart (hParts d hd)
  exact ⟨digits, hDigits, hText, hLength, hParts⟩

theorem readString_end (quote : Char) (start rest : List Char) :
    readString quote start (quote :: rest) = .ok ([], rest) := by
  rw [readString.eq_def]
  exact if_pos rfl

theorem readString_plain {quote c : Char} (hQuote : c ≠ quote) (hBackslash : c ≠ '\\')
    (start rest : List Char) :
    readString quote start (c :: rest) = (readString quote start rest).map (putFirst c) := by
  rw [readString.eq_def]
  simp only [if_neg hQuote, if_neg hBackslash]

theorem readString_escape {quote : Char} (hQuote : '\\' ≠ quote) (e : Char)
    (start after : List Char) :
    readString quote start ('\\' :: e :: after) =
      if e = 'u' then
        match readEscape after with
        | .error fault => .error ⟨fault, e :: after⟩
        | .ok c => (readString quote start (after.drop 4)).map (putFirst c)
      else
        match shortEscape? e with
        | none => .error ⟨.unknownEscape e, e :: after⟩
        | some c => (readString quote start after).map (putFirst c) := by
  rw [readString.eq_def]
  exact (if_neg hQuote).trans (if_pos rfl)

section Operator

variable {c : Char} {rest after : List Char} {sign : Symbol} {token : Token}

theorem lexeme_alone (hSign : sign ∈ operatorSigns) (hFirst : isOperatorPart c = true) :
    Lexeme c rest (.symbol sign) rest :=
  .operator hSign (List.nil_append rest).symm (List.forall_mem_singleton.mpr hFirst)

theorem lexeme_of_eat? {d : Char} (hSign : sign ∈ operatorSigns) (hFirst : isOperatorPart c = true)
    (hNext : isOperatorPart d = true) (h : eat? d rest = some after) :
    Lexeme c rest (.symbol sign) after := by
  obtain rfl := cons_of_eat? h
  exact .operator hSign (List.singleton_append (x := d)).symm
    (List.forall_mem_cons.mpr ⟨hFirst, List.forall_mem_singleton.mpr hNext⟩)

theorem lexeme_of_orEqual {withEqual : Symbol} (hSign : sign ∈ operatorSigns)
    (hWith : withEqual ∈ operatorSigns) (hFirst : isOperatorPart c = true)
    (h : orEqual sign withEqual rest = (token, after)) : Lexeme c rest token after := by
  rw [orEqual] at h
  split at h
  · rename_i hEat
    cases h
    exact lexeme_of_eat? hWith hFirst (by decide) hEat
  · cases h
    exact lexeme_alone hSign hFirst

theorem lexeme_of_equality {middle : List Char} (hSign : sign ∈ operatorSigns)
    (hFirst : isOperatorPart c = true) (hMiddle : eat? '=' rest = some middle)
    (h : equality sign middle = (token, after)) : Lexeme c rest token after := by
  cases h
  cases hEat : eat? '=' middle with
  | none => exact lexeme_of_eat? hSign hFirst (by decide) hMiddle
  | some behind =>
    obtain rfl := cons_of_eat? hMiddle
    obtain rfl := cons_of_eat? hEat
    have hEqual : isOperatorPart '=' = true := by decide
    have hOthers : ∀ d ∈ ['=', '='], isOperatorPart d = true :=
      List.forall_mem_cons.mpr ⟨hEqual, List.forall_mem_singleton.mpr hEqual⟩
    exact .operator hSign rfl (List.forall_mem_cons.mpr ⟨hFirst, hOthers⟩)

end Operator

theorem lexeme_of_readToken {c : Char} {rest after : List Char} {token : Token}
    (h : readToken c rest = .ok (token, after)) : Lexeme c rest token after := by
  unfold readToken at h
  split at h
  · rename_i sign hSimple
    cases h
    exact .simple hSimple
  obtain ⟨rfl, hTaken⟩ | ⟨-, h⟩ := taken_of_ite h
  · obtain ⟨-, hTaken⟩ | ⟨-, hTaken⟩ := taken_of_ite hTaken
    · exact lexeme_of_readNumber (by decide) hTaken
    · cases hTaken
      exact lexeme_alone (by decide) (by decide)
  obtain ⟨rfl, hTaken⟩ | ⟨-, h⟩ := taken_of_ite h
  · exact lexeme_of_orEqual (by decide) (by decide) (by decide) (Except.ok.inj hTaken)
  obtain ⟨rfl, hTaken⟩ | ⟨-, h⟩ := taken_of_ite h
  · exact lexeme_of_orEqual (by decide) (by decide) (by decide) (Except.ok.inj hTaken)
  obtain ⟨rfl, hTaken⟩ | ⟨-, h⟩ := taken_of_ite h
  · split at hTaken
    · rename_i hEat
      exact lexeme_of_equality (by decide) (by decide) hEat (Except.ok.inj hTaken)
    · cases hTaken
      exact lexeme_alone (by decide) (by decide)
  obtain ⟨rfl, hTaken⟩ | ⟨-, h⟩ := taken_of_ite h
  · split at hTaken
    · rename_i hEat
      exact lexeme_of_equality (by decide) (by decide) hEat (Except.ok.inj hTaken)
    · cases hTaken
  obtain ⟨hQuote, hTaken⟩ | ⟨-, h⟩ := taken_of_ite h
  · obtain ⟨⟨content, tail⟩, hString, hEq⟩ := map_eq_ok hTaken
    cases hEq
    exact .string (by simpa [isQuote] using hQuote) hString
  obtain ⟨hDigit, hTaken⟩ | ⟨-, h⟩ := taken_of_ite h
  · exact lexeme_of_readNumber (numeralPart_of_isDigit hDigit) hTaken
  obtain ⟨hStart, hTaken⟩ | ⟨-, h⟩ := taken_of_ite h
  · cases hTaken
    apply Lexeme.ident List.takeWhile_append_dropWhile.symm
    intro d hd
    obtain rfl | hOther := List.mem_cons.mp hd
    · exact namePart_of_isNameStart hStart
    · exact List.all_eq_true.mp List.all_takeWhile d hOther
  split at h
  · rename_i sign _ hSign hEat
    cases h
    split at hSign
    · rename_i hAnd
      cases hSign
      subst hAnd
      exact lexeme_of_eat? (by decide) (by decide) (by decide) hEat
    split at hSign
    · rename_i hOr
      cases hSign
      subst hOr
      exact lexeme_of_eat? (by decide) (by decide) (by decide) hEat
    · cases hSign
  · cases h

end ParamTree.Lexer
