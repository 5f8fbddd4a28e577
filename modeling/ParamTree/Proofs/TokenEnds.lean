import Mathlib.Data.List.TakeWhile
import ParamTree.Proofs.Spelling

/-!
# Ends of tokens

Most characters cannot go on with a token that began before them. A text may be cut in front of such
a character: it spells the tokens of its two parts. Main statement: `Spells.append`.
-/

namespace ParamTree

def Text.allBlanks (p : Char → Bool) : Bool :=
  blankRanges.all fun range =>
    (List.range' range.first (range.last + 1 - range.first)).all fun code => p (Char.ofNat code)

theorem Text.of_allBlanks {p : Char → Bool} (h : allBlanks p = true) {c : Char}
    (hBlank : isBlank c = true) : p c = true := by
  obtain ⟨range, hRange, hFirst, hLast⟩ := (inRanges_iff _ _).mp hBlank
  have hCode : c.toNat ∈ List.range' range.first (range.last + 1 - range.first) := by
    rw [List.mem_range'_1]
    omega
  have hAll := List.all_eq_true.mp (List.all_eq_true.mp h range hRange) _ hCode
  rwa [Char.ofNat_toNat] at hAll

namespace Lexer

open Text

/-- The character goes on with no token, a string apart. -/
def endsToken (c : Char) : Bool :=
  !(isNamePart c || ['.', '+', '-', '=', '&', '|'].contains c)

/-- No token in front of the text goes on into it, a string apart. -/
def Breaks (text : List Char) : Prop :=
  ∀ c ∈ text.head?, endsToken c = true

theorem breaks_nil : Breaks [] :=
  nofun

theorem breaks_cons {c : Char} (h : endsToken c = true) (rest : List Char) :
    Breaks (c :: rest) := by
  rintro d hd
  cases hd
  exact h

theorem isNamePart_of_endsToken {c : Char} (h : endsToken c = true) : isNamePart c = false := by
  rw [endsToken, Bool.not_eq_true', Bool.or_eq_false_iff] at h
  exact h.1

theorem endsToken_of_isBlank {c : Char} (h : isBlank c = true) : endsToken c = true := by
  have hAll : allBlanks endsToken = true := by decide +kernel
  exact of_allBlanks hAll h

theorem isBlank_of_isNamePart {c : Char} (h : isNamePart c = true) : isBlank c = false := by
  cases hBlank : isBlank c with
  | false => rfl
  | true =>
    rw [isNamePart_of_endsToken (endsToken_of_isBlank hBlank)] at h
    cases h

theorem isDigit_of_endsToken {c : Char} (h : endsToken c = true) : c.isDigit = false := by
  cases hDigit : c.isDigit with
  | false => rfl
  | true =>
    have hPart := isNamePart_of_endsToken h
    simp [isNamePart, isAlphanumeric, isNumeric_of_isDigit hDigit] at hPart

theorem ne_of_endsToken {c d : Char} (h : endsToken c = true) (hNot : endsToken d = false) :
    c ≠ d := by
  rintro rfl
  rw [h] at hNot
  cases hNot

section Tail

variable {tail : List Char}

theorem takeWhile_append_tail {p : Char → Bool} (h : ∀ c ∈ tail.head?, p c = false)
    (rest : List Char) : (rest ++ tail).takeWhile p = rest.takeWhile p := by
  induction rest with
  | nil =>
    cases tail with
    | nil => rfl
    | cons c tail =>
      have hFirst := h c rfl
      simp [hFirst]
  | cons c rest ih =>
    rw [List.cons_append, List.takeWhile_cons, List.takeWhile_cons, ih]

theorem dropWhile_append_tail {p : Char → Bool} (h : ∀ c ∈ tail.head?, p c = false)
    (rest : List Char) : (rest ++ tail).dropWhile p = rest.dropWhile p ++ tail := by
  induction rest with
  | nil =>
    cases tail with
    | nil => rfl
    | cons c tail =>
      have hFirst := h c rfl
      simp [hFirst]
  | cons c rest ih =>
    rw [List.cons_append, List.dropWhile_cons, List.dropWhile_cons, ih]
    split
    · rfl
    · rfl

/-- The reader leaves the tail behind a text alone. -/
def Leaves {α : Type} (tail : List Char) (read : List Char → α × List Char) : Prop :=
  ∀ rest, read (rest ++ tail) = ((read rest).1, (read rest).2 ++ tail)

/-- What is read in front of the tail is what is read without it, and the tail is left over. -/
def Alike (tail : List Char) (long alone : Except Misread (Token × List Char)) : Prop :=
  long.toOption = alone.toOption.map fun result => (result.1, result.2 ++ tail)

variable (hTail : Breaks tail)
include hTail

theorem startsWithDigit_append (rest : List Char) :
    startsWithDigit (rest ++ tail) = startsWithDigit rest := by
  cases rest with
  | nil =>
    cases tail with
    | nil => rfl
    | cons c tail => exact isDigit_of_endsToken (hTail c rfl)
  | cons c rest => rfl

theorem leaves_digitSpan : Leaves tail digitSpan := by
  intro rest
  have hDigits : ∀ c ∈ tail.head?, c.isDigit = false :=
    fun c hc => isDigit_of_endsToken (hTail c hc)
  rw [digitSpan, takeWhile_append_tail hDigits, dropWhile_append_tail hDigits]
  rfl

theorem leaves_signSpan : Leaves tail signSpan := by
  intro rest
  cases rest with
  | nil =>
    cases tail with
    | nil => rfl
    | cons c tail =>
      have hFirst := hTail c rfl
      have hSign : ¬(c = '+' ∨ c = '-') :=
        not_or.mpr ⟨ne_of_endsToken hFirst (by decide), ne_of_endsToken hFirst (by decide)⟩
      exact if_neg hSign
  | cons c rest =>
    rw [List.cons_append, signSpan, signSpan]
    split
    · rfl
    · rfl

theorem leaves_fractionSpan : Leaves tail fractionSpan := by
  intro rest
  cases rest with
  | nil =>
    cases tail with
    | nil => rfl
    | cons c tail =>
      have hPoint : c ≠ '.' := ne_of_endsToken (hTail c rfl) (by decide)
      exact if_neg fun h => hPoint h.1
  | cons c rest =>
    rw [List.cons_append, fractionSpan, fractionSpan, startsWithDigit_append hTail,
      leaves_digitSpan hTail]
    split
    · rfl
    · rfl

theorem leaves_exponentSpan : Leaves tail exponentSpan := by
  intro rest
  cases rest with
  | nil =>
    cases tail with
    | nil => rfl
    | cons c tail =>
      have hFirst := hTail c rfl
      have hLetter : ¬(c = 'e' ∨ c = 'E') :=
        not_or.mpr ⟨ne_of_endsToken hFirst (by decide), ne_of_endsToken hFirst (by decide)⟩
      exact if_neg fun h => hLetter h.1
  | cons c rest =>
    rw [List.cons_append, exponentSpan, exponentSpan, leaves_signSpan hTail]
    dsimp only
    rw [startsWithDigit_append hTail, leaves_digitSpan hTail]
    split
    · rfl
    · rfl

theorem leaves_numeralSpan : Leaves tail numeralSpan := by
  intro rest
  simp only [numeralSpan]
  rw [leaves_digitSpan hTail]
  dsimp only
  rw [leaves_fractionSpan hTail]
  dsimp only
  rw [leaves_exponentSpan hTail]

theorem eat?_append {d : Char} (hNot : endsToken d = false) (rest : List Char) :
    eat? d (rest ++ tail) = (eat? d rest).map (· ++ tail) := by
  cases rest with
  | nil =>
    cases tail with
    | nil => rfl
    | cons c tail => exact if_neg (ne_of_endsToken (hTail c rfl) hNot)
  | cons c rest =>
    rw [List.cons_append, eat?, eat?]
    split
    · rfl
    · rfl

theorem leaves_orEqual (alone withEqual : Symbol) : Leaves tail (orEqual alone withEqual) := by
  intro rest
  rw [orEqual, orEqual, eat?_append hTail (by decide)]
  cases eat? '=' rest with
  | none => rfl
  | some behind => rfl

theorem leaves_equality (sign : Symbol) : Leaves tail (equality sign) := by
  intro rest
  rw [equality, equality, eat?_append hTail (by decide)]
  cases eat? '=' rest with
  | none => rfl
  | some behind => rfl

theorem leaves_readName (first : Char) : Leaves tail (readName first) := by
  intro rest
  have hParts : ∀ c ∈ tail.head?, isNamePart c = false :=
    fun c hc => isNamePart_of_endsToken (hTail c hc)
  rw [readName, takeWhile_append_tail hParts, dropWhile_append_tail hParts]
  rfl

omit hTail in
theorem alike_ok (token : Token) (rest : List Char) :
    Alike tail (.ok (token, rest ++ tail)) (.ok (token, rest)) := rfl

omit hTail in
theorem alike_error (misread misread' : Misread) : Alike tail (.error misread) (.error misread') :=
  rfl

omit hTail in
theorem alike_ite {p : Prop} [Decidable p] {long alone long' alone' : Except Misread _}
    (hYes : p → Alike tail long alone) (hNo : Alike tail long' alone') :
    Alike tail (if p then long else long') (if p then alone else alone') := by
  by_cases h : p
  · rw [if_pos h, if_pos h]
    exact hYes h
  · rw [if_neg h, if_neg h]
    exact hNo

omit hTail in
theorem alike_of_leaves {read : List Char → Token × List Char} (hRead : Leaves tail read)
    (rest : List Char) : Alike tail (.ok (read (rest ++ tail))) (.ok (read rest)) := by
  rw [hRead rest]
  exact alike_ok (read rest).1 (read rest).2

theorem alike_readNumber (first : Char) (rest : List Char) :
    Alike tail (readNumber first (rest ++ tail)) (readNumber first rest) := by
  simp only [readNumber, leaves_numeralSpan hTail rest]
  split
  · exact alike_ok _ _
  · exact alike_error _ _

omit hTail in
theorem endsToken_of_double {c : Char} {sign : Symbol}
    (h : (if c = '&' then some Symbol.andAnd else if c = '|' then some .orOr else none) =
      some sign) :
    endsToken c = false := by
  split at h
  · rename_i hAnd
    rw [hAnd]
    decide
  split at h
  · rename_i hOr
    rw [hOr]
    decide
  · cases h

/-- Every token but a string is read the same with the tail behind it. -/
theorem alike_readToken {c : Char} (hQuote : isQuote c = false) (rest : List Char) :
    Alike tail (readToken c (rest ++ tail)) (readToken c rest) := by
  have hEqual : eat? '=' (rest ++ tail) = (eat? '=' rest).map (· ++ tail) :=
    eat?_append hTail (by decide) rest
  unfold readToken
  cases simpleSymbol? c with
  | some sign => exact alike_ok (.symbol sign) rest
  | none =>
    refine alike_ite ?dot (alike_ite ?less (alike_ite ?greater (alike_ite ?bang
      (alike_ite ?assign (alike_ite ?quote (alike_ite ?digit (alike_ite ?name ?double)))))))
    case dot =>
      intro _
      rw [startsWithDigit_append hTail]
      refine alike_ite ?_ (alike_ok (.symbol .dot) rest)
      intro _
      exact alike_readNumber hTail c rest
    case less =>
      intro _
      exact alike_of_leaves (leaves_orEqual hTail .lt .le) rest
    case greater =>
      intro _
      exact alike_of_leaves (leaves_orEqual hTail .gt .ge) rest
    case bang =>
      intro _
      rw [hEqual]
      cases eat? '=' rest with
      | none => exact alike_ok (.symbol .bang) rest
      | some middle => exact alike_of_leaves (leaves_equality hTail .notEq) middle
    case assign =>
      intro _
      rw [hEqual]
      cases eat? '=' rest with
      | none => exact alike_error _ _
      | some middle => exact alike_of_leaves (leaves_equality hTail .eqEq) middle
    case quote =>
      intro hMark
      simp [isQuote] at hQuote
      exact (hMark.elim hQuote.1 hQuote.2).elim
    case digit =>
      intro _
      exact alike_readNumber hTail c rest
    case name =>
      intro _
      exact alike_of_leaves (leaves_readName hTail c) rest
    case double =>
      generalize hDouble :
        (if c = '&' then some Symbol.andAnd else if c = '|' then some .orOr else none) = double
      cases double with
      | none => exact alike_error _ _
      | some sign =>
        rw [eat?_append hTail (endsToken_of_double hDouble)]
        cases eat? c rest with
        | none => exact alike_error _ _
        | some behind => exact alike_ok (.symbol sign) behind

end Tail

theorem readToken_quote {c : Char} (h : isQuote c = true) (rest : List Char) :
    readToken c rest = (readString c (c :: rest) rest).map fun result =>
      (.string (String.ofList result.1), result.2) := by
  simp only [isQuote, Bool.or_eq_true, decide_eq_true_eq] at h
  obtain rfl | rfl := h
  · rfl
  · rfl

theorem readEscape_append {text : List Char} {c : Char} (h : readEscape text = .ok c)
    (tail : List Char) : readEscape (text ++ tail) = .ok c ∧ 4 ≤ text.length := by
  obtain ⟨digits, hTake, hText, hLength, hParts⟩ := digits_of_readEscape h
  have hSizes : ∀ d ∈ digits, d.utf8Size = 1 := fun d hd => utf8Size_of_isEscapePart (hParts d hd)
  have hLong : takeBytes? 4 (text ++ tail) = some digits := by
    rw [hText, List.append_assoc, ← hLength]
    exact takeBytes?_append hSizes
  constructor
  · rw [readEscape, hTake] at h
    rw [readEscape, hLong]
    exact h
  · rw [hText, List.length_append, hLength]
    exact Nat.le_add_right 4 _

/-- A string that is closed ends before any tail. -/
theorem readString_append {quote : Char} {start text : List Char} {result : List Char × List Char}
    (h : readString quote start text = .ok result) (start' tail : List Char) :
    readString quote start' (text ++ tail) = .ok (result.1, result.2 ++ tail) := by
  refine readString_induction (motive := fun text result =>
    readString quote start' (text ++ tail) = .ok (result.1, result.2 ++ tail))
    ?closed ?code ?short ?plain h
  case closed => exact fun after => readString_end quote start' (after ++ tail)
  case code =>
    intro rest c result hNotQuote hEscape ih
    obtain ⟨hLong, hLength⟩ := readEscape_append hEscape tail
    rw [List.cons_append, List.cons_append, readString_escape hNotQuote, if_pos rfl, hLong]
    change (readString quote start' ((rest ++ tail).drop 4)).map (putFirst c) = _
    rw [List.drop_append_of_le_length hLength, ih]
    rfl
  case short =>
    intro e rest c result hNotQuote hNotU hShort ih
    rw [List.cons_append, List.cons_append, readString_escape hNotQuote, if_neg hNotU, hShort]
    change (readString quote start' (rest ++ tail)).map (putFirst c) = _
    rw [ih]
    rfl
  case plain =>
    intro c rest result hNotQuote hNotBackslash ih
    rw [List.cons_append, readString_plain hNotQuote hNotBackslash, ih]
    rfl

theorem readToken_append {c : Char} {rest after tail : List Char} {token : Token}
    (h : readToken c rest = .ok (token, after)) (hTail : Breaks tail) :
    readToken c (rest ++ tail) = .ok (token, after ++ tail) := by
  cases hQuote : isQuote c with
  | false =>
    have hAlike := alike_readToken hTail hQuote rest
    rw [h] at hAlike
    cases hLong : readToken c (rest ++ tail) with
    | error misread =>
      rw [hLong] at hAlike
      cases hAlike
    | ok result =>
      rw [hLong] at hAlike
      exact congrArg Except.ok (Option.some.inj hAlike)
  | true =>
    rw [readToken_quote hQuote] at h ⊢
    obtain ⟨content, hContent, hResult⟩ := map_eq_ok h
    cases hResult
    rw [readString_append hContent]
    rfl

/-! ### Spelled tokens -/

theorem Spells.of_dropWhile_eq {text text' : List Char} {tokens : List Token}
    (h : Spells text tokens) (hText : text'.dropWhile isBlank = text.dropWhile isBlank) :
    Spells text' tokens := by
  cases h with
  | blanks hBlanks => exact .blanks (hText.trans hBlanks)
  | token hFirst hToken hOthers => exact .token (hText.trans hFirst) hToken hOthers

theorem Spells.append {text tail : List Char} {tokens others : List Token} (h : Spells text tokens)
    (hTail : Breaks tail) (hOthers : Spells tail others) :
    Spells (text ++ tail) (tokens ++ others) := by
  induction h with
  | blanks hText =>
    apply hOthers.of_dropWhile_eq
    rw [List.dropWhile_append, hText]
    rfl
  | token hText hToken _ ih =>
    refine .token ?_ (readToken_append hToken hTail) ih
    rw [List.dropWhile_append, hText]
    rfl

theorem spells_sign {c : Char} {sign : Symbol} {rest : List Char} {others : List Token}
    (hSign : simpleSymbol? c = some sign) (hBlank : isBlank c = false) (h : Spells rest others) :
    Spells (c :: rest) (.symbol sign :: others) := by
  have hToken : readToken c rest = .ok (.symbol sign, rest) := by
    rw [readToken, hSign]
  exact .token (List.dropWhile_cons_of_neg (by simp [hBlank])) hToken h

theorem isBlank_of_isQuote {quote : Char} (h : isQuote quote = true) : isBlank quote = false := by
  simp only [isQuote, Bool.or_eq_true, decide_eq_true_eq] at h
  obtain rfl | rfl := h
  · decide
  · decide

theorem readString_plainText {quote : Char} {content : List Char}
    (h : ∀ c ∈ content, c ≠ quote ∧ c ≠ '\\') (start rest : List Char) :
    readString quote start (content ++ quote :: rest) = .ok (content, rest) := by
  induction content with
  | nil => exact readString_end quote start rest
  | cons c content ih =>
    obtain ⟨hFirst, hContent⟩ := List.forall_mem_cons.mp h
    rw [List.cons_append, readString_plain hFirst.1 hFirst.2, ih hContent]
    rfl

/-- A text between quotes in which neither the quote nor a backslash stands. -/
theorem spells_quoted {quote : Char} {content rest : List Char} {others : List Token}
    (hQuote : isQuote quote = true) (hContent : ∀ c ∈ content, c ≠ quote ∧ c ≠ '\\')
    (h : Spells rest others) :
    Spells (quote :: (content ++ quote :: rest)) (.string (String.ofList content) :: others) := by
  have hBlank := isBlank_of_isQuote hQuote
  refine .token (List.dropWhile_cons_of_neg (by simp [hBlank])) ?_ h
  rw [readToken_quote hQuote, readString_plainText hContent]
  rfl

theorem simpleSymbol?_of_isNameStart {c : Char} (h : isNameStart c = true) :
    simpleSymbol? c = none := by
  unfold simpleSymbol?
  split <;> first | rfl | (revert h; decide)

theorem isDigit_of_isNameStart {c : Char} (h : isNameStart c = true) : c.isDigit = false := by
  cases hDigit : c.isDigit with
  | false => rfl
  | true =>
    have hAll : decimalDigits.all (fun c => !isNameStart c) = true := by decide
    have hNot := List.all_eq_true.mp hAll c (mem_decimalDigits hDigit)
    rw [h] at hNot
    cases hNot

theorem readToken_name {c : Char} (h : isNameStart c = true) (rest : List Char) :
    readToken c rest = .ok (readName c rest) := by
  have hNe : ∀ d, isNameStart d = false → c ≠ d := by
    rintro d hNot rfl
    rw [h] at hNot
    cases hNot
  simp [readToken, simpleSymbol?_of_isNameStart h, isDigit_of_isNameStart h, h,
    hNe '.' (by decide), hNe '<' (by decide), hNe '>' (by decide), hNe '!' (by decide),
    hNe '=' (by decide), hNe '\'' (by decide), hNe '"' (by decide)]

theorem spells_name {first : Char} {letters rest : List Char} {others : List Token}
    (hFirst : isNameStart first = true) (hLetters : ∀ c ∈ letters, isNamePart c = true)
    (hRest : Breaks rest) (h : Spells rest others) :
    Spells (first :: (letters ++ rest)) (.ident (String.ofList (first :: letters)) :: others) := by
  have hBlank := isBlank_of_isNamePart (namePart_of_isNameStart hFirst)
  refine .token (List.dropWhile_cons_of_neg (by simp [hBlank])) ?_ h
  rw [readToken_name hFirst, leaves_readName hRest, readName,
    List.takeWhile_eq_self_iff.mpr hLetters, List.dropWhile_eq_nil_iff.mpr hLetters]
  rfl

def isIdentifier : List Char → Bool
  | [] => false
  | c :: rest => isNameStart c && rest.all isNamePart

/-- The text is an identifier and none of the words that are literals. -/
def IsName (text : String) : Prop :=
  isIdentifier text.toList = true ∧ text ∉ ["null", "true", "false"]

instance : DecidablePred IsName := fun text =>
  inferInstanceAs (Decidable (isIdentifier text.toList = true ∧ text ∉ ["null", "true", "false"]))

theorem exists_of_isIdentifier {text : List Char} (h : isIdentifier text = true) :
    ∃ first letters, text = first :: letters ∧ isNameStart first = true ∧
      ∀ c ∈ letters, isNamePart c = true := by
  cases text with
  | nil => cases h
  | cons first letters =>
    rw [isIdentifier, Bool.and_eq_true, List.all_eq_true] at h
    exact ⟨first, letters, rfl, h⟩

theorem isNamePart_of_isIdentifier {text : List Char} (h : isIdentifier text = true) :
    ∀ c ∈ text, isNamePart c = true := by
  obtain ⟨first, letters, rfl, hFirst, hLetters⟩ := exists_of_isIdentifier h
  exact List.forall_mem_cons.mpr ⟨namePart_of_isNameStart hFirst, hLetters⟩

theorem spells_identifier {name : String} (h : isIdentifier name.toList = true) {rest : List Char}
    {others : List Token} (hRest : Breaks rest) (hOthers : Spells rest others) :
    Spells (name.toList ++ rest) (.ident name :: others) := by
  obtain ⟨first, letters, hName, hFirst, hLetters⟩ := exists_of_isIdentifier h
  have hSpells := spells_name hFirst hLetters hRest hOthers
  rwa [← hName, String.ofList_toList, ← List.cons_append, ← hName] at hSpells

end Lexer

end ParamTree
