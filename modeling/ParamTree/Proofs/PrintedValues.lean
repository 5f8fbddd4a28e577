import ParamTree.Json.Reader
import ParamTree.Proofs.PrintedNumerals

/-!
# Printed values read back

The compact text of a value is read as the spelling of the value: the characters of its strings, the
numerals of its numbers, and its items and fields in order. A spelling belongs to one value, so two
values with one text are the same. Main statements: `Source.ofText?_compact` and
`Json.compact_injective`.
-/

namespace ParamTree

namespace StringUnit

/-- The unit that is printed for a character: control characters without an escape of their own are
given in hexadecimal. -/
def ofChar (c : Char) : StringUnit :=
  if c.toNat < 0x20 ∧ c ∉ ['\n', '\r', '\t', '\x08', '\x0c'] then .unit c.toNat else .char c

def ofText (text : String) : List StringUnit :=
  text.toList.map ofChar

theorem decode?_unit {code : Nat} (hHigh : isHighSurrogate code = false)
    (hLow : isLowSurrogate code = false) (rest : List StringUnit) :
    decode? (.unit code :: rest) = (decode? rest).map (Char.ofNat code :: ·) := by
  cases rest with
  | nil => simp [decode?, hHigh, hLow]
  | cons unit rest => cases unit <;> simp [decode?, hHigh, hLow]

theorem decode?_ofChar (c : Char) (rest : List StringUnit) :
    decode? (ofChar c :: rest) = (decode? rest).map (c :: ·) := by
  rw [ofChar]
  split
  · rename_i hControl
    have hHigh : isHighSurrogate c.toNat = false := by
      simp only [isHighSurrogate, Bool.and_eq_false_iff, decide_eq_false_iff_not]
      omega
    have hLow : isLowSurrogate c.toNat = false := by
      simp only [isLowSurrogate, Bool.and_eq_false_iff, decide_eq_false_iff_not]
      omega
    rw [decode?_unit hHigh hLow, Char.ofNat_toNat]
  · rw [decode?]

theorem text?_ofText (text : String) : text? (ofText text) = some text := by
  have hChars : ∀ chars, decode? (chars.map ofChar) = some chars := by
    intro chars
    induction chars with
    | nil => rfl
    | cons c chars ih => rw [List.map_cons, decode?_ofChar, ih, Option.map_some]
  rw [text?, ofText, hChars, Option.map_some, String.ofList_toList]

theorem ofText_injective {first second : String} (h : ofText first = ofText second) :
    first = second := by
  apply Option.some.inj
  rw [← text?_ofText, ← text?_ofText, h]

end StringUnit

namespace Source

open Json Lexer StringUnit

variable {rest : List Char}

theorem readUnits_short {c e : Char} (hNe : e ≠ 'u') (hEscape : shortEscape? e = some c)
    (rest : List Char) :
    readUnits ('\\' :: e :: rest) = mapReader (.char c :: ·) readUnits rest := by
  rw [readUnits]
  · cases hRest : readUnits rest <;> simp [mapReader, hRest, hEscape]
  · intro _ _ _ _ _ hLetter
    exact absurd hLetter hNe

theorem ofHexDigits?_hexFour :
    ∀ code < 0x20, Text.ofHexDigits? (Text.hexFour code) = some code := by
  decide

theorem readUnits_hexFour {code : Nat} (h : code < 0x20) (rest : List Char) :
    readUnits ('\\' :: 'u' :: (Text.hexFour code ++ rest)) =
      mapReader (.unit code :: ·) readUnits rest := by
  have hCode := ofHexDigits?_hexFour code h
  simp only [Text.hexFour, List.map_cons, List.map_nil] at hCode
  simp only [Text.hexFour, List.map_cons, List.map_nil, List.cons_append, List.nil_append,
    readUnits, hCode]
  cases hRest : readUnits rest <;> simp [mapReader, hRest]

theorem readUnits_plain {c : Char} (hQuote : c ≠ '"') (hBackslash : c ≠ '\\')
    (hControl : ¬c.toNat < 0x20) (rest : List Char) :
    readUnits (c :: rest) = mapReader (.char c :: ·) readUnits rest := by
  rw [readUnits]
  · rw [if_neg hQuote, if_neg (not_or.mpr ⟨hBackslash, hControl⟩)]
    cases hRest : readUnits rest <;> simp [mapReader, hRest]
  · intro _ _ _ _ _ hLetter
    exact absurd hLetter hBackslash
  · intro _ _ hLetter
    exact absurd hLetter hBackslash

theorem readUnits_escapeChar (c : Char) (rest : List Char) :
    readUnits (escapeChar c ++ rest) = mapReader (ofChar c :: ·) readUnits rest := by
  have hShort : ∀ e, e ≠ 'u' → shortEscape? e = some c → ofChar c = .char c →
      readUnits ('\\' :: e :: rest) = mapReader (ofChar c :: ·) readUnits rest := by
    intro e hNe hEscape hUnit
    rw [hUnit]
    exact readUnits_short hNe hEscape rest
  unfold escapeChar
  split
  · subst c
    exact hShort '"' (by decide) rfl rfl
  split
  · subst c
    exact hShort '\\' (by decide) rfl rfl
  split
  · subst c
    exact hShort 'n' (by decide) rfl rfl
  split
  · subst c
    exact hShort 'r' (by decide) rfl rfl
  split
  · subst c
    exact hShort 't' (by decide) rfl rfl
  split
  · subst c
    exact hShort 'b' (by decide) rfl rfl
  split
  · subst c
    exact hShort 'f' (by decide) rfl rfl
  rename_i hQuote hBackslash hLine hReturn hTab hBack hFeed
  split
  · rename_i hControl
    have hUnit : ofChar c = .unit c.toNat := by
      simp [ofChar, hControl, hLine, hReturn, hTab, hBack, hFeed]
    rw [hUnit]
    exact readUnits_hexFour hControl rest
  · rename_i hControl
    have hUnit : ofChar c = .char c := if_neg fun h => hControl h.1
    rw [hUnit]
    exact readUnits_plain hQuote hBackslash hControl rest

theorem readUnits_printed (chars rest : List Char) :
    readUnits (chars.flatMap escapeChar ++ '"' :: rest) = some (chars.map ofChar, rest) := by
  induction chars with
  | nil => rw [List.flatMap_nil, List.nil_append, readUnits] <;> simp
  | cons c chars ih =>
    rw [List.flatMap_cons, List.append_assoc, readUnits_escapeChar, mapReader, ih]
    rfl

theorem readString_stringChars (text : String) (rest : List Char) :
    readString (stringChars text ++ rest) = some (ofText text, rest) := by
  have hChars : stringChars text ++ rest =
      '"' :: (text.toList.flatMap escapeChar ++ '"' :: rest) := by
    simp [stringChars]
  rw [hChars, readString, readUnits_printed]
  rfl

theorem skipBlanks_cons {c : Char} (h : isJsonBlank c = false) (rest : List Char) :
    skipBlanks (c :: rest) = c :: rest := by
  rw [skipBlanks, List.dropWhile_cons_of_neg (by simp [h])]

section Separated

variable {α β : Type} {item : Reader α} {closing : Char} {parts : List β} {text : β → List Char}
  {value : β → α}

/-- The reader of items finds the value of each part in front of a sign that ends it. -/
def Finds (item : Reader α) (text : β → List Char) (value : β → α) (part : β) : Prop :=
  ∀ rest, Delimited rest → item (text part ++ rest) = some (value part, rest)

theorem readSeparated_commaJoin (hClosing : closing = ']' ∨ closing = '\x7d') (hNe : parts ≠ [])
    (hItems : ∀ part ∈ parts, Finds item text value part) (rest : List Char) :
    readSeparated item closing (commaJoin (parts.map text) ++ closing :: rest) =
      some (parts.map value, rest) := by
  have hSign : isJsonBlank closing = false ∧ closing ∈ [',', ']', '\x7d'] ∧ ',' ≠ closing := by
    obtain rfl | rfl := hClosing
    · decide
    · decide
  obtain ⟨hBlank, hMem, hComma⟩ := hSign
  induction parts with
  | nil => exact absurd rfl hNe
  | cons part others ih =>
    obtain ⟨hPart, hOthers⟩ := List.forall_mem_cons.mp hItems
    cases others with
    | nil =>
      have hRead := hPart (closing :: rest) (delimited_cons hMem rest)
      rw [readSeparated]
      simp only [List.map_cons, List.map_nil, commaJoin, hRead, skipBlanks_cons hBlank, if_true]
    | cons next others =>
      have hMore := ih (List.cons_ne_nil next others) hOthers
      have hText : commaJoin ((part :: next :: others).map text) ++ closing :: rest =
          text part ++ ',' :: (commaJoin ((next :: others).map text) ++ closing :: rest) := by
        simp [commaJoin]
      rw [hText]
      generalize commaJoin ((next :: others).map text) ++ closing :: rest = more at hMore ⊢
      have hRead := hPart _ (delimited_cons (show ',' ∈ [',', ']', '\x7d'] by decide) more)
      have hShorter : more.length < (text part ++ ',' :: more).length := by
        simp only [List.length_append, List.length_cons]
        omega
      have hCommaBlank : isJsonBlank ',' = false := rfl
      rw [readSeparated]
      simp only [hRead, skipBlanks_cons hCommaBlank, if_neg hComma, hShorter, and_self, if_true,
        hMore]
      rfl

theorem readBracketed_commaJoin (hClosing : closing = ']' ∨ closing = '\x7d')
    (hFirst : ∀ part ∈ parts, ∃ c ∈ (text part).head?, isJsonBlank c = false ∧ c ≠ closing)
    (hItems : ∀ part ∈ parts, Finds item text value part) (rest : List Char) :
    readBracketed item closing (commaJoin (parts.map text) ++ closing :: rest) =
      some (parts.map value, rest) := by
  cases parts with
  | nil =>
    have hBlank : isJsonBlank closing = false := by
      obtain rfl | rfl := hClosing
      · rfl
      · rfl
    simp [commaJoin, readBracketed, skipBlanks_cons hBlank]
  | cons part others =>
    have hRead := readSeparated_commaJoin hClosing (List.cons_ne_nil part others) hItems rest
    obtain ⟨c, hHead, hBlank, hNe⟩ := hFirst part List.mem_cons_self
    obtain ⟨behind, hBehind⟩ := List.head?_eq_some_iff.mp hHead
    obtain ⟨more, hMore⟩ : ∃ more,
        commaJoin ((part :: others).map text) ++ closing :: rest = c :: more := by
      cases others <;> simp [commaJoin, hBehind]
    rw [hMore] at hRead ⊢
    rw [readBracketed, skipBlanks_cons hBlank]
    simp only [if_neg hNe, hRead]

end Separated

end Source

namespace Json

mutual

/-- How the compact text of a value is spelled. -/
def spelled : Json → Source
  | .null => .null
  | .bool value => .bool value
  | .number n => .number n.numeral
  | .string text => .string (StringUnit.ofText text)
  | .array items => .array (spelledItems items)
  | .object fields => .object (spelledFields fields)

def spelledItems : List Json → List Source
  | [] => []
  | item :: items => spelled item :: spelledItems items

def spelledFields : List (String × Json) → List (List StringUnit × Source)
  | [] => []
  | (key, value) :: fields => (StringUnit.ofText key, spelled value) :: spelledFields fields

end

theorem spelledItems_eq_map (items : List Json) : spelledItems items = items.map spelled := by
  induction items with
  | nil => rfl
  | cons item items ih => simp [spelledItems, ih]

theorem spelledFields_eq_map (fields : List (String × Json)) :
    spelledFields fields =
      fields.map fun field => (StringUnit.ofText field.1, spelled field.2) := by
  induction fields with
  | nil => rfl
  | cons field fields ih => simp [spelledFields, ih]

def fieldChars (field : String × Json) : List Char :=
  stringChars field.1 ++ ':' :: compactChars field.2

theorem compactChars_array (items : List Json) :
    compactChars (.array items) = '[' :: (commaJoin (items.map compactChars) ++ [']']) := by
  rw [compactChars, arrayChars, compactItems_eq_map, List.cons_append]

theorem compactChars_object (fields : List (String × Json)) :
    compactChars (.object fields) =
      '\x7b' :: (commaJoin (fields.map fieldChars) ++ ['\x7d']) := by
  rw [compactChars, objectChars, compactFields_eq_map, List.map_map, List.cons_append]
  rfl

theorem length_le_commaJoin {text : List Char} {texts : List (List Char)} (h : text ∈ texts) :
    text.length ≤ (commaJoin texts).length := by
  induction texts with
  | nil => cases h
  | cons first others ih =>
    cases others with
    | nil =>
      rw [List.mem_singleton.mp h]
      exact Nat.le_refl _
    | cons next others =>
      simp only [commaJoin, List.length_append, List.length_cons]
      obtain rfl | hOther := List.mem_cons.mp h
      · omega
      · have hLength := ih hOther
        omega

/-- No other value begins like a numeral, and no blank or bracket does. -/
theorem opens_numeral {c : Char} (h : c = '-' ∨ c.isDigit = true) :
    Source.isJsonBlank c = false ∧ c ∉ [']', 'n', 't', 'f', '"', '[', '\x7b'] := by
  have hMem : c ∈ '-' :: Lexer.decimalDigits := by
    obtain rfl | hDigit := h
    · exact List.mem_cons_self
    · exact List.mem_cons_of_mem _ (Lexer.mem_decimalDigits hDigit)
  have hAll : ('-' :: Lexer.decimalDigits).all (fun c =>
      !(Source.isJsonBlank c || [']', 'n', 't', 'f', '"', '[', '\x7b'].contains c)) = true := by
    decide
  have hOne := List.all_eq_true.mp hAll c hMem
  rw [Bool.not_eq_true', Bool.or_eq_false_iff] at hOne
  refine ⟨hOne.1, ?_⟩
  rw [← List.contains_iff_mem, hOne.2]
  exact Bool.false_ne_true

theorem head?_compactChars (value : Json) :
    ∃ c ∈ value.compactChars.head?, Source.isJsonBlank c = false ∧ c ≠ ']' := by
  cases value with
  | null => exact ⟨'n', rfl, by decide⟩
  | bool value => cases value <;> exact ⟨_, rfl, by decide⟩
  | number n =>
    obtain ⟨c, hHead, hOpens⟩ := Numeral.head?_chars n.isPlain_numeral
    obtain ⟨hBlank, hNot⟩ := opens_numeral hOpens
    refine ⟨c, ?_, hBlank, ?_⟩
    · rwa [Number.chars_numeral] at hHead
    · rintro rfl
      exact hNot List.mem_cons_self
  | string text => exact ⟨'"', rfl, by decide⟩
  | array items => exact ⟨'[', rfl, by decide⟩
  | object fields => exact ⟨'\x7b', rfl, by decide⟩

end Json

namespace Source

open Json Lexer StringUnit

variable {depth : Nat} {rest : List Char}

theorem readValue_number (n : Number) (hRest : Delimited rest) :
    readValue (depth + 1) (n.chars ++ rest) = some (.number n.numeral, rest) := by
  have hRead := readNumeral_chars n.isPlain_numeral hRest
  obtain ⟨c, hHead, hOpens⟩ := Numeral.head?_chars n.isPlain_numeral
  obtain ⟨others, hOthers⟩ := List.head?_eq_some_iff.mp hHead
  obtain ⟨hBlank, hNot⟩ := opens_numeral hOpens
  simp only [List.mem_cons, List.not_mem_nil, or_false, not_or] at hNot
  obtain ⟨-, hNull, hTrue, hFalse, hQuote, hBracket, hBrace⟩ := hNot
  rw [← Number.chars_numeral, hOthers, List.cons_append]
  rw [hOthers, List.cons_append] at hRead
  rw [readValue, skipBlanks_cons hBlank]
  split
  · rename_i hChars
    exact absurd (List.cons.inj hChars).1 hNull
  · rename_i hChars
    exact absurd (List.cons.inj hChars).1 hTrue
  · rename_i hChars
    exact absurd (List.cons.inj hChars).1 hFalse
  · rename_i hChars
    exact absurd (List.cons.inj hChars).1 hQuote
  · rename_i hChars
    exact absurd (List.cons.inj hChars).1 hBracket
  · rename_i hChars
    exact absurd (List.cons.inj hChars).1 hBrace
  · rw [mapReader, hRead]
    rfl

theorem readField_fieldChars {field : String × Json}
    (hValue : ∀ rest, Delimited rest →
      readValue depth (field.2.compactChars ++ rest) = some (field.2.spelled, rest)) :
    Finds (readField (readValue depth)) fieldChars
      (fun field => (ofText field.1, field.2.spelled)) field := by
  intro rest hRest
  have hChars : fieldChars field ++ rest =
      stringChars field.1 ++ ':' :: (field.2.compactChars ++ rest) := by
    simp [fieldChars]
  have hBlanks : skipBlanks (fieldChars field ++ rest) = fieldChars field ++ rest :=
    skipBlanks_cons rfl _
  have hColon : skipBlanks (':' :: (field.2.compactChars ++ rest)) =
      ':' :: (field.2.compactChars ++ rest) :=
    skipBlanks_cons rfl _
  simp only [readField, hBlanks]
  rw [hChars, readString_stringChars]
  simp only [hColon, hValue rest hRest]

/-- A value nests no deeper than its text is long. -/
theorem readValue_compactChars (value : Json) {depth : Nat} {rest : List Char}
    (hDepth : value.compactChars.length ≤ depth) (hRest : Delimited rest) :
    readValue (depth + 1) (value.compactChars ++ rest) = some (value.spelled, rest) := by
  induction value using Json.parts_induction generalizing depth rest with
  | null => rfl
  | bool value => cases value <;> rfl
  | number n => exact readValue_number n hRest
  | string text =>
    have hString := readString_stringChars text rest
    simp only [stringChars, List.cons_append, readString] at hString
    simp only [compactChars, scalarChars, stringChars, List.cons_append, readValue,
      skipBlanks_cons (show isJsonBlank '"' = false from rfl), mapReader, hString, spelled]
    rfl
  | array items ih =>
    rw [compactChars_array] at hDepth ⊢
    obtain ⟨below, rfl⟩ := Nat.exists_eq_add_one_of_ne_zero (Nat.ne_zero_of_lt hDepth)
    have hItems : ∀ item ∈ items, Finds (readValue (below + 1)) compactChars spelled item := by
      intro item hItem rest hRest
      have hLength := length_le_commaJoin (List.mem_map_of_mem (f := compactChars) hItem)
      simp only [List.length_cons, List.length_append] at hDepth
      exact ih item hItem (by omega) hRest
    have hRead := readBracketed_commaJoin (.inl rfl) (fun item _ => head?_compactChars item)
      hItems rest
    have hText : '[' :: (commaJoin (items.map compactChars) ++ [']']) ++ rest =
        '[' :: (commaJoin (items.map compactChars) ++ ']' :: rest) := by
      simp
    rw [hText, readValue, skipBlanks_cons rfl, spelled, spelledItems_eq_map]
    simp only [mapReader, hRead, Option.map_some]
  | object fields ih =>
    rw [compactChars_object] at hDepth ⊢
    obtain ⟨below, rfl⟩ := Nat.exists_eq_add_one_of_ne_zero (Nat.ne_zero_of_lt hDepth)
    have hFields : ∀ field ∈ fields, Finds (readField (readValue (below + 1))) fieldChars
        (fun field => (ofText field.1, field.2.spelled)) field := by
      intro field hField
      have hLength := length_le_commaJoin (List.mem_map_of_mem (f := fieldChars) hField)
      simp only [fieldChars, List.length_cons, List.length_append] at hDepth hLength
      exact readField_fieldChars fun rest hRest => ih field hField (by omega) hRest
    have hFirst : ∀ field ∈ fields,
        ∃ c ∈ (fieldChars field).head?, isJsonBlank c = false ∧ c ≠ '\x7d' :=
      fun field _ => ⟨'"', rfl, by decide⟩
    have hRead := readBracketed_commaJoin (.inr rfl) hFirst hFields rest
    have hText : '\x7b' :: (commaJoin (fields.map fieldChars) ++ ['\x7d']) ++ rest =
        '\x7b' :: (commaJoin (fields.map fieldChars) ++ '\x7d' :: rest) := by
      simp
    rw [hText, readValue, skipBlanks_cons rfl, spelled, spelledFields_eq_map]
    simp only [mapReader, hRead, Option.map_some]

theorem ofText?_compact (value : Json) : ofText? value.compact = some value.spelled := by
  have hNothing : Delimited [] := nofun
  have hRead := readValue_compactChars value (Nat.le_refl _) hNothing
  rw [List.append_nil] at hRead
  simp only [ofText?, toList_compact, hRead]
  rfl

end Source

namespace Json

theorem map_inj_of_forall {α β : Type} {f : α → β} {xs ys : List α}
    (h : ∀ x ∈ xs, ∀ y, f x = f y → x = y) (hMap : xs.map f = ys.map f) : xs = ys := by
  induction xs generalizing ys with
  | nil => exact (List.map_eq_nil_iff.mp hMap.symm).symm
  | cons x xs ih =>
    obtain ⟨hFirst, hOthers⟩ := List.forall_mem_cons.mp h
    cases ys with
    | nil => cases hMap
    | cons y ys =>
      obtain ⟨hHead, hTail⟩ := List.cons.inj hMap
      rw [hFirst y hHead, ih hOthers hTail]

theorem spelled_injective {v w : Json} (h : v.spelled = w.spelled) : v = w := by
  induction v using Json.parts_induction generalizing w with
  | null => cases w <;> cases h; rfl
  | bool value => cases w <;> cases h; rfl
  | number n =>
    cases w <;> simp only [spelled, reduceCtorEq, Source.number.injEq] at h
    rw [Number.numeral_injective h]
  | string text =>
    cases w <;> simp only [spelled, reduceCtorEq, Source.string.injEq] at h
    rw [StringUnit.ofText_injective h]
  | array items ih =>
    cases w <;> simp only [spelled, reduceCtorEq, Source.array.injEq, spelledItems_eq_map] at h
    rw [map_inj_of_forall (fun item hItem other => ih item hItem) h]
  | object fields ih =>
    cases w <;> simp only [spelled, reduceCtorEq, Source.object.injEq, spelledFields_eq_map] at h
    rename_i others
    have hFields : fields = others := by
      apply map_inj_of_forall _ h
      intro field hField other hEq
      obtain ⟨hKey, hValue⟩ := Prod.mk.inj hEq
      exact Prod.ext (StringUnit.ofText_injective hKey) (ih field hField hValue)
    rw [hFields]

theorem compactChars_injective {v w : Json} (h : v.compactChars = w.compactChars) : v = w := by
  have hText : v.compact = w.compact := by rw [compact, compact, h]
  apply spelled_injective
  apply Option.some.inj
  rw [← Source.ofText?_compact, ← Source.ofText?_compact, hText]

end Json

end ParamTree
