import Mathlib.Data.List.Forall2
import Mathlib.Data.Nat.Digits.Defs
import ParamTree.Proofs.TokenEnds

/-!
# Strings in expressions

A string is written as its characters and escapes between two quotes. The reader of the digits of an
escape takes a plus sign in front of three of them for the first of four. So strings are read as
they are documented unless one has such an escape. Main statement: `string_literals_exact_iff`.
-/

namespace ParamTree

namespace Text

/-- Digits of either case. -/
def HexDigit (c : Char) (value : Nat) : Prop :=
  "0123456789abcdef".toList[value]? = some c ∨ "0123456789ABCDEF".toList[value]? = some c

instance (c : Char) (value : Nat) : Decidable (HexDigit c value) :=
  inferInstanceAs (Decidable (_ ∨ _))

/-- The digits write the number, the most significant one first. -/
def HexNumeral (digits : List Char) (n : Nat) : Prop :=
  ∃ values, List.Forall₂ HexDigit digits values ∧ Nat.ofDigits 16 values.reverse = n

theorem hexValue?_of_getElem? {row : String} {c : Char} {value : Nat}
    (hRow : ∀ value < 16, row.toList[value]?.all (fun c => hexValue? c = some value) = true)
    (hBound : value < 16) (h : row.toList[value]? = some c) : hexValue? c = some value := by
  have hAll := hRow value hBound
  rw [h] at hAll
  exact of_decide_eq_true hAll

theorem hexValue?_eq_some_iff {c : Char} {value : Nat} :
    hexValue? c = some value ↔ HexDigit c value := by
  constructor
  · intro h
    have hBound : c.toNat < 0x67 := by
      unfold hexValue? at h
      split at h
      · rename_i hDigit
        simp only [Char.isDigit, Bool.and_eq_true, decide_eq_true_eq] at hDigit
        exact Nat.lt_of_le_of_lt (UInt32.le_iff_toNat_le.mp hDigit.2) (by decide)
      split at h
      · rename_i hLower
        exact Nat.lt_of_le_of_lt (UInt32.le_iff_toNat_le.mp hLower.2) (by decide)
      split at h
      · rename_i hUpper
        exact Nat.lt_of_le_of_lt (UInt32.le_iff_toNat_le.mp hUpper.2) (by decide)
      · cases h
    have hAll : ∀ code < 0x67, ∀ value ∈ hexValue? (Char.ofNat code),
        HexDigit (Char.ofNat code) value := by
      decide +kernel
    have hDigit := hAll _ hBound value
    rw [Char.ofNat_toNat] at hDigit
    exact hDigit h
  · intro h
    have hBound : value < 16 := by
      obtain hLower | hUpper := h
      · exact (List.getElem?_eq_some_iff.mp hLower).1
      · exact (List.getElem?_eq_some_iff.mp hUpper).1
    obtain hLower | hUpper := h
    · exact hexValue?_of_getElem? (by decide +kernel) hBound hLower
    · exact hexValue?_of_getElem? (by decide +kernel) hBound hUpper

theorem foldlM_hexValue?_eq_some_iff {digits : List Char} {value n : Nat} :
    digits.foldlM (fun value c => (hexValue? c).map (value * 16 + ·)) value = some n ↔
      ∃ values, List.Forall₂ HexDigit digits values ∧
        values.foldl (fun value digit => value * 16 + digit) value = n := by
  induction digits generalizing value with
  | nil => simp
  | cons c digits ih =>
    simp only [List.foldlM_cons, Option.bind_eq_bind, Option.bind_eq_some_iff, Option.map_eq_some_iff,
      hexValue?_eq_some_iff, ih, List.forall₂_cons_left_iff]
    constructor
    · rintro ⟨_, ⟨digit, hDigit, rfl⟩, values, hValues, rfl⟩
      exact ⟨digit :: values, ⟨digit, values, hDigit, hValues, rfl⟩, rfl⟩
    · rintro ⟨_, ⟨digit, values, hDigit, hValues, rfl⟩, rfl⟩
      exact ⟨_, ⟨digit, hDigit, rfl⟩, values, hValues, rfl⟩

theorem ofHexDigits?_eq_some_iff {digits : List Char} {n : Nat} :
    ofHexDigits? digits = some n ↔ HexNumeral digits n := by
  have hDigits (values : List Nat) : Nat.ofDigits 16 values.reverse =
      values.foldl (fun value digit => value * 16 + digit) 0 := by
    simp [Nat.ofDigits_eq_foldr, Nat.mul_comm, Nat.add_comm]
  simp only [ofHexDigits?, foldlM_hexValue?_eq_some_iff, HexNumeral, hDigits]

end Text

namespace Lexer

open Text

inductive ShortEscape : Char → Char → Prop where
  | lineFeed : ShortEscape 'n' '\n'
  | tab : ShortEscape 't' '\t'
  | carriageReturn : ShortEscape 'r' '\r'
  | backslash : ShortEscape '\\' '\\'
  | apostrophe : ShortEscape '\'' '\''
  | quotationMark : ShortEscape '"' '"'
  | slash : ShortEscape '/' '/'

theorem shortEscape?_eq_some_iff {e c : Char} : shortEscape? e = some c ↔ ShortEscape e c := by
  constructor
  · intro h
    unfold shortEscape? at h
    split at h
    · subst e
      cases h
      exact .lineFeed
    split at h
    · subst e
      cases h
      exact .tab
    split at h
    · subst e
      cases h
      exact .carriageReturn
    split at h
    · rename_i hSelf
      cases h
      obtain rfl | rfl | rfl | rfl := hSelf
      · exact .backslash
      · exact .apostrophe
      · exact .quotationMark
      · exact .slash
    · cases h
  · rintro (_ | _)
    all_goals rfl

theorem ShortEscape.ne_u {e c : Char} (h : ShortEscape e c) : e ≠ 'u' := by
  cases h
  all_goals decide

/-- What the reader takes for the four digits of an escape: also a plus sign and three digits. -/
def LooseNumeral (digits : List Char) (n : Nat) : Prop :=
  HexNumeral digits n ∨ ∃ others, digits = '+' :: others ∧ HexNumeral others n

theorem not_hexNumeral_plus {others : List Char} {n : Nat} : ¬HexNumeral ('+' :: others) n := by
  rintro ⟨values, hValues, -⟩
  obtain ⟨value, _, hDigit, -, -⟩ := List.forall₂_cons_left_iff.mp hValues
  rw [← hexValue?_eq_some_iff] at hDigit
  cases hDigit

theorem escapeCode?_eq_some_iff {digits : List Char} {n : Nat} :
    escapeCode? digits = some n ↔ LooseNumeral digits n := by
  unfold escapeCode?
  split
  · rename_i others
    rw [ofHexDigits?_eq_some_iff]
    constructor
    · intro h
      exact .inr ⟨others, rfl, h⟩
    · rintro (hPlus | ⟨_, hEq, hOthers⟩)
      · exact (not_hexNumeral_plus hPlus).elim
      · cases hEq
        exact hOthers
  · rename_i hPlus
    rw [ofHexDigits?_eq_some_iff]
    constructor
    · exact .inl
    · rintro (hDigits | ⟨others, rfl, -⟩)
      · exact hDigits
      · exact (hPlus others rfl).elim

theorem scalar?_eq_some_iff {code : Nat} {c : Char} : scalar? code = some c ↔ c.toNat = code := by
  unfold scalar?
  split
  · rename_i hValid
    constructor
    · intro h
      cases h
      rw [Char.ofNat, dif_pos hValid]
      rfl
    · rintro rfl
      rw [Char.ofNat_toNat]
  · rename_i hNot
    constructor
    · exact nofun
    · rintro rfl
      exact (hNot c.valid).elim

theorem readEscape_digits {digits : List Char} {c : Char} (hLength : digits.length = 4)
    (h : LooseNumeral digits c.toNat) (rest : List Char) : readEscape (digits ++ rest) = .ok c := by
  have hCode := escapeCode?_eq_some_iff.mpr h
  have hSizes : ∀ d ∈ digits, d.utf8Size = 1 :=
    fun d hd => utf8Size_of_isEscapePart (isEscapePart_of_escapeCode? hCode d hd)
  have hTake := @takeBytes?_append _ rest hSizes
  rw [hLength] at hTake
  simp only [readEscape, hTake, hCode, scalar?_eq_some_iff.mpr rfl]

theorem looseNumeral_of_readEscape {text : List Char} {c : Char} (h : readEscape text = .ok c) :
    ∃ digits, text = digits ++ text.drop 4 ∧ digits.length = 4 ∧ LooseNumeral digits c.toNat := by
  obtain ⟨digits, hTake, hText, hLength, -⟩ := digits_of_readEscape h
  refine ⟨digits, hText, hLength, ?_⟩
  rw [readEscape, hTake] at h
  dsimp only at h
  split at h
  · cases h
  rename_i code hCode
  split at h
  · cases h
  rename_i hScalar
  cases h
  rw [scalar?_eq_some_iff.mp hScalar]
  exact escapeCode?_eq_some_iff.mp hCode

/-! ### Items -/

/-- A character of a string, as it is written. -/
structure Item where
  spelling : List Char
  value : Char

/-- The item stands for itself, or it is an escape. The numeral of an escape is that of a Unicode
scalar value. -/
inductive IsItem (Numeral : List Char → Nat → Prop) (quote : Char) : Item → Prop where
  | plain {c} : c ≠ quote → c ≠ '\\' → IsItem Numeral quote ⟨[c], c⟩
  | short {e c} : ShortEscape e c → IsItem Numeral quote ⟨['\\', e], c⟩
  | code {digits c} : digits.length = 4 → Numeral digits c.toNat →
    IsItem Numeral quote ⟨'\\' :: 'u' :: digits, c⟩

/-- The item is an escape with a plus sign among its digits. -/
def Item.IsSigned (item : Item) : Prop :=
  ['\\', 'u', '+'] <+: item.spelling

section Quote

variable {quote : Char} {item other : Item} {items others : List Item} {start text : List Char}

theorem IsItem.hexNumeral (h : IsItem LooseNumeral quote item) (hUnsigned : ¬item.IsSigned) :
    IsItem HexNumeral quote item := by
  cases h with
  | plain hQuote hBackslash => exact .plain hQuote hBackslash
  | short hEscape => exact .short hEscape
  | code hLength hNumeral =>
    obtain hDigits | ⟨others, rfl, -⟩ := hNumeral
    · exact .code hLength hDigits
    · exact (hUnsigned ⟨others, rfl⟩).elim

theorem IsItem.loose (h : IsItem HexNumeral quote item) : IsItem LooseNumeral quote item := by
  cases h with
  | plain hQuote hBackslash => exact .plain hQuote hBackslash
  | short hEscape => exact .short hEscape
  | code hLength hNumeral => exact .code hLength (.inl hNumeral)

theorem IsItem.not_isSigned (h : IsItem HexNumeral quote item) : ¬item.IsSigned := by
  rintro ⟨behind, hSpelling⟩
  cases h with
  | plain => cases hSpelling
  | short => cases hSpelling
  | code _ hNumeral =>
    cases hSpelling
    exact not_hexNumeral_plus hNumeral

/-- An item is told by the front of the text that it is written in. -/
theorem IsItem.append_inj (h : IsItem LooseNumeral quote item)
    (hOther : IsItem LooseNumeral quote other) {rest behind : List Char}
    (hText : item.spelling ++ rest = other.spelling ++ behind) : item = other ∧ rest = behind := by
  cases h with
  | plain _ hBackslash =>
    cases hOther with
    | plain =>
      cases hText
      exact ⟨rfl, rfl⟩
    | short | code =>
      cases hText
      exact (hBackslash rfl).elim
  | short hEscape =>
    cases hOther with
    | plain _ hBackslash =>
      cases hText
      exact (hBackslash rfl).elim
    | short hSame =>
      cases hText
      have hValue := shortEscape?_eq_some_iff.mpr hSame
      rw [shortEscape?_eq_some_iff.mpr hEscape] at hValue
      cases hValue
      exact ⟨rfl, rfl⟩
    | code =>
      cases hText
      exact (hEscape.ne_u rfl).elim
  | code hLength hNumeral =>
    cases hOther with
    | plain _ hBackslash =>
      cases hText
      exact (hBackslash rfl).elim
    | short hEscape =>
      cases hText
      exact (hEscape.ne_u rfl).elim
    | @code digits c hFour hSame =>
      injection hText with _ hText
      injection hText with _ hText
      obtain ⟨rfl, rfl⟩ := List.append_inj hText (hLength.trans hFour.symm)
      have hValue := escapeCode?_eq_some_iff.mpr hSame
      rw [escapeCode?_eq_some_iff.mpr hNumeral] at hValue
      cases Char.toNat_inj.mp (Option.some.inj hValue)
      exact ⟨rfl, rfl⟩

theorem IsItem.head_ne (hQuote : quote ≠ '\\') (h : IsItem LooseNumeral quote item)
    {rest behind : List Char} : item.spelling ++ rest ≠ quote :: behind := by
  intro hText
  cases h with
  | plain hNot =>
    cases hText
    exact hNot rfl
  | short | code =>
    cases hText
    exact hQuote rfl

theorem items_unique (hQuote : quote ≠ '\\')
    (h : ∀ item ∈ items, IsItem LooseNumeral quote item)
    (hOthers : ∀ item ∈ others, IsItem LooseNumeral quote item) {rest behind : List Char}
    (hText : items.flatMap Item.spelling ++ quote :: rest =
      others.flatMap Item.spelling ++ quote :: behind) : items = others := by
  induction items generalizing others with
  | nil =>
    cases others with
    | nil => rfl
    | cons other others =>
      rw [List.flatMap_cons, List.append_assoc] at hText
      exact ((hOthers other List.mem_cons_self).head_ne hQuote hText.symm).elim
  | cons item items ih =>
    obtain ⟨hItem, hItems⟩ := List.forall_mem_cons.mp h
    rw [List.flatMap_cons, List.append_assoc] at hText
    cases others with
    | nil => exact (hItem.head_ne hQuote hText).elim
    | cons other others =>
      obtain ⟨hOther, hMore⟩ := List.forall_mem_cons.mp hOthers
      rw [List.flatMap_cons, List.append_assoc] at hText
      obtain ⟨rfl, hRest⟩ := hItem.append_inj hOther hText
      exact congrArg (item :: ·) (ih hItems hMore hRest)

/-! ### The reader of strings -/

theorem readString_item (hQuote : quote ≠ '\\') (h : IsItem LooseNumeral quote item)
    (start rest : List Char) :
    readString quote start (item.spelling ++ rest) =
      (readString quote start rest).map (putFirst item.value) := by
  cases h with
  | plain hNot hBackslash => exact readString_plain hNot hBackslash start rest
  | short hEscape =>
    change readString quote start ('\\' :: _ :: rest) = _
    rw [readString_escape hQuote.symm, if_neg hEscape.ne_u, shortEscape?_eq_some_iff.mpr hEscape]
  | @code digits c hLength hNumeral =>
    change readString quote start ('\\' :: 'u' :: (digits ++ rest)) = _
    rw [readString_escape hQuote.symm, if_pos rfl, readEscape_digits hLength hNumeral]
    dsimp only
    rw [← hLength, List.drop_left]

theorem readString_items (hQuote : quote ≠ '\\')
    (h : ∀ item ∈ items, IsItem LooseNumeral quote item) (start after : List Char) :
    readString quote start (items.flatMap Item.spelling ++ quote :: after) =
      .ok (items.map Item.value, after) := by
  induction items with
  | nil => exact readString_end quote start after
  | cons item items ih =>
    obtain ⟨hItem, hItems⟩ := List.forall_mem_cons.mp h
    rw [List.flatMap_cons, List.append_assoc, readString_item hQuote hItem, ih hItems]
    rfl

/-- The text begins with items of this content and the closing quote. -/
def Closes (quote : Char) (text content after : List Char) : Prop :=
  ∃ items : List Item, (∀ item ∈ items, IsItem LooseNumeral quote item) ∧
    text = items.flatMap Item.spelling ++ quote :: after ∧ content = items.map Item.value

theorem Closes.cons {content after : List Char} (h : Closes quote text content after)
    (hItem : IsItem LooseNumeral quote item) :
    Closes quote (item.spelling ++ text) (item.value :: content) after := by
  obtain ⟨items, hItems, rfl, rfl⟩ := h
  exact ⟨item :: items, List.forall_mem_cons.mpr ⟨hItem, hItems⟩, by simp, rfl⟩

theorem closes_of_readString {result : List Char × List Char}
    (h : readString quote start text = .ok result) : Closes quote text result.1 result.2 := by
  refine readString_induction (motive := fun text result => Closes quote text result.1 result.2)
    ?closed ?code ?short ?plain h
  case closed => exact fun after => ⟨[], List.forall_mem_nil _, rfl, rfl⟩
  case code =>
    intro rest c result hNotQuote hEscape ih
    obtain ⟨digits, hText, hLength, hNumeral⟩ := looseNumeral_of_readEscape hEscape
    rw [hText]
    exact ih.cons (.code hLength hNumeral)
  case short =>
    intro e rest c result _ _ hShort ih
    exact ih.cons (.short (shortEscape?_eq_some_iff.mp hShort))
  case plain =>
    intro c rest result hNotQuote hNotBackslash ih
    exact ih.cons (.plain hNotQuote hNotBackslash)

theorem readString_eq_ok_iff (hQuote : quote ≠ '\\') {content after : List Char} :
    readString quote start text = .ok (content, after) ↔ Closes quote text content after := by
  constructor
  · exact closes_of_readString
  · rintro ⟨items, hItems, rfl, rfl⟩
    exact readString_items hQuote hItems start after

end Quote

/-! ### Strings at the front of a text -/

def written (quote : Char) (items : List Item) : List Char :=
  quote :: items.flatMap Item.spelling ++ [quote]

/-- A string of this content is written at the front of the text. -/
def BeginsWithString (Numeral : List Char → Nat → Prop) (quote : Char) (text : List Char)
    (content : String) (size : Nat) : Prop :=
  ∃ items after, (∀ item ∈ items, IsItem Numeral quote item) ∧
    text = written quote items ++ after ∧ content = String.ofList (items.map Item.value) ∧
    size = width (written quote items)

/-- The first token is a string of this content, and the next one is looked for behind it. -/
def TakesString (text : List Char) (content : String) (size : Nat) : Prop :=
  ∃ c rest after, text = c :: rest ∧ readToken c rest = .ok (.string content, after) ∧
    width text = size + width after

/-- The string that is written at the front of the text is its first token, and the text has no
tokens if there is none. -/
structure ReadsStrings (Numeral : List Char → Nat → Prop) (quote : Char) (text : List Char) :
    Prop where
  takes_iff : ∀ content size,
    TakesString text content size ↔ BeginsWithString Numeral quote text content size
  fails : (¬∃ content size, BeginsWithString Numeral quote text content size) →
    ∃ error, Token.ofText (String.ofList text) = .error error

section Quote

variable {quote : Char} {rest : List Char}

theorem ne_backslash_of_isQuote (h : isQuote quote = true) : quote ≠ '\\' := by
  rintro rfl
  cases h

theorem readToken_string_iff (hQuote : isQuote quote = true) {token : Token} {after : List Char} :
    readToken quote rest = .ok (token, after) ↔
      ∃ items, (∀ item ∈ items, IsItem LooseNumeral quote item) ∧
        quote :: rest = written quote items ++ after ∧
        token = .string (String.ofList (items.map Item.value)) := by
  have hNotBackslash := ne_backslash_of_isQuote hQuote
  rw [readToken_quote hQuote]
  constructor
  · intro h
    obtain ⟨result, hRead, hResult⟩ := map_eq_ok h
    cases hResult
    obtain ⟨items, hItems, hRest, hContent⟩ := (readString_eq_ok_iff hNotBackslash).mp hRead
    refine ⟨items, hItems, ?_, ?_⟩
    · simp [written, hRest]
    · rw [hContent]
  · rintro ⟨items, hItems, hText, rfl⟩
    have hRest : rest = items.flatMap Item.spelling ++ quote :: after := by
      simpa [written] using hText
    rw [(readString_eq_ok_iff hNotBackslash).mpr ⟨items, hItems, hRest, rfl⟩]
    rfl

theorem takesString_iff (hQuote : isQuote quote = true) (content : String) (size : Nat) :
    TakesString (quote :: rest) content size ↔
      BeginsWithString LooseNumeral quote (quote :: rest) content size := by
  constructor
  · rintro ⟨_, _, after, hText, hToken, hSize⟩
    cases hText
    obtain ⟨items, hItems, hWritten, hContent⟩ := (readToken_string_iff hQuote).mp hToken
    refine ⟨items, after, hItems, hWritten, Token.string.inj hContent, ?_⟩
    rw [hWritten, width_append] at hSize
    exact (Nat.add_right_cancel hSize).symm
  · rintro ⟨items, after, hItems, hWritten, rfl, rfl⟩
    have hToken := (readToken_string_iff hQuote).mpr ⟨items, hItems, hWritten, rfl⟩
    refine ⟨quote, rest, after, rfl, hToken, ?_⟩
    rw [hWritten, width_append]

theorem exists_error_of_no_string (hQuote : isQuote quote = true)
    (h : ¬∃ content size, BeginsWithString LooseNumeral quote (quote :: rest) content size) :
    ∃ error, Token.ofText (String.ofList (quote :: rest)) = .error error := by
  cases hText : Token.ofText (String.ofList (quote :: rest)) with
  | error error => exact ⟨error, rfl⟩
  | ok tokens =>
    obtain ⟨used, last, -, -, hSpells⟩ := spells_of_tokensFrom hText
    have hFirst : (quote :: rest).dropWhile isBlank = quote :: rest :=
      List.dropWhile_cons_of_neg (by simp [isBlank_of_isQuote hQuote])
    rw [String.toList_ofList] at hSpells
    generalize kinds used = tokens at hSpells
    cases hSpells with
    | blanks hBlanks => cases hFirst.symm.trans hBlanks
    | token hDrop hToken _ =>
      cases hFirst.symm.trans hDrop
      obtain ⟨items, hItems, hWritten, -⟩ := (readToken_string_iff hQuote).mp hToken
      exact (h ⟨_, _, items, _, hItems, hWritten, rfl, rfl⟩).elim

theorem readsStrings_loose (hQuote : isQuote quote = true) (rest : List Char) :
    ReadsStrings LooseNumeral quote (quote :: rest) :=
  ⟨takesString_iff hQuote, exists_error_of_no_string hQuote⟩

/-- A string of hexadecimal escapes is one that is read and has no signed escape. -/
theorem beginsWithString_hex_iff
    (h : ∀ items after, (∀ item ∈ items, IsItem LooseNumeral quote item) →
      quote :: rest = written quote items ++ after → ∀ item ∈ items, ¬item.IsSigned)
    (content : String) (size : Nat) :
    BeginsWithString HexNumeral quote (quote :: rest) content size ↔
      BeginsWithString LooseNumeral quote (quote :: rest) content size := by
  constructor
  · rintro ⟨items, after, hItems, hText⟩
    exact ⟨items, after, fun item hItem => (hItems item hItem).loose, hText⟩
  · rintro ⟨items, after, hItems, hText, hRest⟩
    exact ⟨items, after,
      fun item hItem => (hItems item hItem).hexNumeral (h items after hItems hText item hItem),
      hText, hRest⟩

end Quote

/-- A string is read as its quotes and items write it, and nothing else is, where the digits of an
escape may be a plus sign and three digits. So what is documented holds of a text exactly if the
string in front has no such escape. -/
theorem string_literals_exact_iff {quote : Char} (hQuote : isQuote quote = true)
    (rest : List Char) :
    ReadsStrings LooseNumeral quote (quote :: rest) ∧
    (ReadsStrings HexNumeral quote (quote :: rest) ↔
      ∀ items after, (∀ item ∈ items, IsItem LooseNumeral quote item) →
        quote :: rest = written quote items ++ after → ∀ item ∈ items, ¬item.IsSigned) := by
  have hLoose := readsStrings_loose hQuote rest
  refine ⟨hLoose, ?_⟩
  constructor
  · intro hHex items after hItems hText item hItem
    have hTaken := (hLoose.takes_iff _ _).mpr ⟨items, after, hItems, hText, rfl, rfl⟩
    obtain ⟨others, behind, hOthers, hOther, -, -⟩ := (hHex.takes_iff _ _).mp hTaken
    have hSame : items = others := by
      apply items_unique (ne_backslash_of_isQuote hQuote) hItems fun i hi => (hOthers i hi).loose
      simpa [written] using hText.symm.trans hOther
    subst hSame
    exact (hOthers item hItem).not_isSigned
  · intro hUnsigned
    have hSame := beginsWithString_hex_iff hUnsigned
    constructor
    · intro content size
      exact (hLoose.takes_iff content size).trans (hSame content size).symm
    · intro hNone
      apply hLoose.fails
      simpa only [hSame] using hNone

/-- An escape of four digits is read as it is documented. -/
theorem string_literals_exact_four_digits :
    let rest := ['\\', 'u', '0', '0', 'e', '9', '\'']
    isQuote '\'' = true ∧ ReadsStrings HexNumeral '\'' ('\'' :: rest) ∧
    TakesString ('\'' :: rest) "é" 8 := by
  intro rest
  have hHex : ReadsStrings HexNumeral '\'' ('\'' :: rest) := by
    apply (string_literals_exact_iff (by decide) rest).2.mpr
    intro items after hItems hText item hItem hSigned
    have hPlus : '+' ∈ written '\'' items := by
      have hMem : '+' ∈ item.spelling := hSigned.subset (by decide)
      simpa [written] using ⟨item, hItem, hMem⟩
    have hNot : '+' ∉ '\'' :: rest := by decide
    exact hNot (hText ▸ List.mem_append_left after hPlus)
  have hDigits : HexNumeral ['0', '0', 'e', '9'] 'é'.toNat :=
    ofHexDigits?_eq_some_iff.mp (by decide)
  have hItem : ∀ item ∈ [(⟨['\\', 'u', '0', '0', 'e', '9'], 'é'⟩ : Item)],
      IsItem HexNumeral '\'' item :=
    List.forall_mem_singleton.mpr (.code rfl hDigits)
  exact ⟨by decide, hHex, (hHex.takes_iff "é" 8).mpr ⟨_, [], hItem, rfl, rfl, rfl⟩⟩

/-- A plus sign stands for the first digit, and the text is a string token all the same. -/
theorem string_literals_not_exact_plus_sign :
    let rest := ['\\', 'u', '+', '0', '4', '1', '\'']
    Token.ofText (String.ofList ('\'' :: rest)) = .ok [⟨.string "A", 0⟩, ⟨.eof, 8⟩] ∧
    TakesString ('\'' :: rest) "A" 8 ∧
    (¬∃ content size, BeginsWithString HexNumeral '\'' ('\'' :: rest) content size) ∧
    ¬ReadsStrings HexNumeral '\'' ('\'' :: rest) := by
  intro rest
  have hTokens : Token.ofText (String.ofList ('\'' :: rest)) =
      .ok [⟨.string "A", 0⟩, ⟨.eof, 8⟩] := by
    apply Except.eq_ok_of_toOption
    decide +kernel
  have hDigits : HexNumeral ['0', '4', '1'] 'A'.toNat := ofHexDigits?_eq_some_iff.mp (by decide)
  have hItem : ∀ item ∈ [(⟨['\\', 'u', '+', '0', '4', '1'], 'A'⟩ : Item)],
      IsItem LooseNumeral '\'' item :=
    List.forall_mem_singleton.mpr (.code rfl (.inr ⟨_, rfl, hDigits⟩))
  have hTaken : TakesString ('\'' :: rest) "A" 8 :=
    (takesString_iff (by decide) "A" 8).mpr ⟨_, [], hItem, rfl, rfl, rfl⟩
  have hNone : ¬∃ content size, BeginsWithString HexNumeral '\'' ('\'' :: rest) content size := by
    rintro ⟨_, _, others, after, hOthers, hText, -, -⟩
    have hItems : [(⟨['\\', 'u', '+', '0', '4', '1'], 'A'⟩ : Item)].flatMap Item.spelling ++
        '\'' :: [] = others.flatMap Item.spelling ++ '\'' :: after := by
      simpa [written] using hText
    obtain rfl := items_unique (by decide) hItem (fun i hi => (hOthers i hi).loose) hItems
    exact (hOthers _ (List.mem_singleton_self _)).not_isSigned ⟨_, rfl⟩
  exact ⟨hTokens, hTaken, hNone, fun h => hNone ⟨_, _, (h.takes_iff "A" 8).mp hTaken⟩⟩

end Lexer

end ParamTree
