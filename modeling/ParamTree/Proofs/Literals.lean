import ParamTree.Proofs.PrintedTokens

/-!
# Values as expressions

The compact text of a value is an expression: scalars are literals, arrays and objects list their
parts, and a negative integer is the opposite of a literal. Main statement: `Expr.ofText_compact`,
for values that are nested at most 126 levels deep.
-/

namespace ParamTree

open Grammar ParamTree.Parser Lexer

namespace Json

mutual

/-- All numbers are integers that the sign of an expression reaches, and all texts are read back as
they are printed. -/
def IsLiteral : Json → Prop
  | .number (.integer value _) => -0x8000000000000000 < value ∧ value < 0x8000000000000000
  | .number (.float _) => False
  | .string text => Text.HasSharedEscapes text
  | .array items => IsLiteralItems items
  | .object fields => IsLiteralFields fields
  | _ => True

def IsLiteralItems : List Json → Prop
  | [] => True
  | item :: items => IsLiteral item ∧ IsLiteralItems items

def IsLiteralFields : List (String × Json) → Prop
  | [] => True
  | (key, value) :: fields =>
    Text.HasSharedEscapes key ∧ IsLiteral value ∧ IsLiteralFields fields

end

mutual

/-- How many arrays and objects are around the innermost part. -/
def nesting : Json → Nat
  | .array items => nestingItems items + 1
  | .object fields => nestingFields fields + 1
  | _ => 0

def nestingItems : List Json → Nat
  | [] => 0
  | item :: items => max (nesting item) (nestingItems items)

def nestingFields : List (String × Json) → Nat
  | [] => 0
  | (_, value) :: fields => max (nesting value) (nestingFields fields)

end

end Json

namespace Expr

def ofNumber : Number → Expr
  | .integer value _ =>
    if value < 0 then
      .unary .neg (.literal (.number (.ofNat value.natAbs)))
    else
      .literal (.number (.ofNat value.natAbs))
  | .float value => .literal (.number (.float value))

mutual

/-- The expression that the text of a value is. -/
def ofJson : Json → Expr
  | .number n => ofNumber n
  | .array items => .array (ofItems items)
  | .object fields => .object (ofFields fields)
  | value => .literal value

def ofItems : List Json → List Expr
  | [] => []
  | item :: items => ofJson item :: ofItems items

def ofFields : List (String × Json) → List (String × Expr)
  | [] => []
  | (key, value) :: fields => (key, ofJson value) :: ofFields fields

end

end Expr

namespace Grammar

/-- The text is a phrase with the expression, whatever stands behind it. -/
def Writes (category : Category) (budget : Nat) (text : List Char) (e : Expr) : Prop :=
  ∃ tokens, Derives category budget tokens e ∧ ∀ rest others, Delimited rest →
    Spells rest others → Spells (text ++ rest) (tokens ++ others)

variable {budget : Nat} {text texts : List Char} {e : Expr}

namespace Writes

theorem of_operand (h : Writes (.level 0) budget text e) :
    Writes .expression (budget + 1) text e := by
  obtain ⟨tokens, hDerives, hSpells⟩ := h
  exact ⟨tokens, .single (derives_level_add hDerives (show 0 + 6 ≤ 6 by decide)), hSpells⟩

theorem of_primary (h : Writes .primary budget text e) : Writes (.level 0) budget text e := by
  obtain ⟨tokens, hDerives, hSpells⟩ := h
  refine ⟨tokens, ?_, hSpells⟩
  have hOperand : Derives (.level 0) budget (tokens ++ []) e := .postfixed hDerives .suffixesEnd
  rwa [List.append_nil] at hOperand

theorem string {content : String} (h : Text.HasSharedEscapes content) :
    Writes .primary budget (Json.stringChars content) (.literal (.string content)) :=
  ⟨_, .string, fun _ _ _ hOthers => spells_string h hOthers⟩

theorem digits {count : Nat} (h : count < 0x8000000000000000) :
    Writes .primary budget (Nat.toDigits 10 count) (.literal (.number (.ofNat count))) :=
  ⟨_, .number, fun _ _ hRest hOthers => spells_digits h hRest hOthers⟩

theorem word {first : Char} {letters : List Char} (hFirst : isNameStart first = true)
    (hLetters : ∀ c ∈ letters, isNamePart c = true) :
    Writes .primary budget (first :: letters) (atom (String.ofList (first :: letters))) :=
  ⟨_, .ident, fun _ _ hRest hOthers =>
    spells_name hFirst hLetters (breaks_of_delimited hRest) hOthers⟩

theorem minus (h : Writes (.level 0) budget text e) :
    Writes (.level 0) (budget + 1) ('-' :: text) (.unary .neg e) := by
  obtain ⟨tokens, hDerives, hSpells⟩ := h
  exact ⟨.symbol .minus :: tokens, .unary rfl hDerives, fun rest others hRest hOthers =>
    spells_sign rfl rfl (hSpells rest others hRest hOthers)⟩

theorem array {elements : List Expr} (h : Writes (.items .rBracket) budget text (.array elements)) :
    Writes .primary budget ('[' :: text) (.array elements) := by
  obtain ⟨tokens, hDerives, hSpells⟩ := h
  exact ⟨.symbol .lBracket :: tokens, .array hDerives, fun rest others hRest hOthers =>
    spells_sign rfl rfl (hSpells rest others hRest hOthers)⟩

theorem object {entries : List (String × Expr)}
    (h : Writes .entries budget text (.object entries)) :
    Writes .primary budget ('\x7b' :: text) (.object entries) := by
  obtain ⟨tokens, hDerives, hSpells⟩ := h
  exact ⟨.symbol .lBrace :: tokens, .object hDerives, fun rest others hRest hOthers =>
    spells_sign rfl rfl (hSpells rest others hRest hOthers)⟩

theorem itemsEnd : Writes (.items .rBracket) budget [']'] (.array []) :=
  ⟨_, .itemsEnd, fun _ _ _ hOthers => spells_sign rfl rfl hOthers⟩

theorem itemsLast (h : Writes .expression budget text e) :
    Writes (.items .rBracket) budget (text ++ [']']) (.array [e]) := by
  obtain ⟨tokens, hDerives, hSpells⟩ := h
  refine ⟨tokens ++ [.symbol .rBracket], .itemsLast hDerives, ?_⟩
  intro rest others _ hOthers
  rw [List.append_assoc, List.append_assoc]
  exact hSpells _ _ (@delimited_cons ']' (by decide) rest) (spells_sign rfl rfl hOthers)

theorem itemsMore {elements : List Expr} (h : Writes .expression budget text e)
    (hMore : Writes (.items .rBracket) budget texts (.array elements)) :
    Writes (.items .rBracket) budget (text ++ ',' :: texts) (.array (e :: elements)) := by
  obtain ⟨tokens, hDerives, hSpells⟩ := h
  obtain ⟨moreTokens, hMoreDerives, hMoreSpells⟩ := hMore
  refine ⟨tokens ++ .symbol .comma :: moreTokens, .itemsMore hDerives hMoreDerives, ?_⟩
  intro rest others hRest hOthers
  rw [List.append_assoc, List.append_assoc]
  exact hSpells _ _ (@delimited_cons ',' (by decide) _)
    (spells_sign rfl rfl (hMoreSpells rest others hRest hOthers))

section Entries

variable {key : String}

theorem spells_key (hKey : Text.HasSharedEscapes key) {rest : List Char} {others : List Token}
    (h : Spells rest others) :
    Spells (Json.stringChars key ++ ':' :: rest) (.string key :: .symbol .colon :: others) :=
  spells_string hKey (spells_sign rfl rfl h)

theorem entriesEnd : Writes .entries budget ['\x7d'] (.object []) :=
  ⟨_, .entriesEnd, fun _ _ _ hOthers => spells_sign rfl rfl hOthers⟩

theorem entriesLast (hKey : Text.HasSharedEscapes key) (h : Writes .expression budget text e) :
    Writes .entries budget (Json.stringChars key ++ ':' :: text ++ ['\x7d'])
      (.object [(key, e)]) := by
  obtain ⟨tokens, hDerives, hSpells⟩ := h
  refine ⟨.string key :: .symbol .colon :: tokens ++ [.symbol .rBrace],
    .entriesLast rfl hDerives, ?_⟩
  intro rest others _ hOthers
  have hBehind := hSpells _ _ (@delimited_cons '\x7d' (by decide) rest)
    (spells_sign rfl rfl hOthers)
  simpa using spells_key hKey hBehind

theorem entriesMore {fields : List (String × Expr)} (hKey : Text.HasSharedEscapes key)
    (h : Writes .expression budget text e) (hMore : Writes .entries budget texts (.object fields)) :
    Writes .entries budget (Json.stringChars key ++ ':' :: text ++ ',' :: texts)
      (.object ((key, e) :: fields)) := by
  obtain ⟨tokens, hDerives, hSpells⟩ := h
  obtain ⟨moreTokens, hMoreDerives, hMoreSpells⟩ := hMore
  refine ⟨.string key :: .symbol .colon :: tokens ++ .symbol .comma :: moreTokens,
    .entriesMore rfl hDerives hMoreDerives, ?_⟩
  intro rest others hRest hOthers
  have hBehind := hSpells _ _ (@delimited_cons ',' (by decide) _)
    (spells_sign rfl rfl (hMoreSpells rest others hRest hOthers))
  simpa using spells_key hKey hBehind

end Entries

end Writes

end Grammar

open Json ParamTree.Expr

theorem writes_ofNumber {value : Number} {budget : Nat} (h : (Json.number value).IsLiteral) :
    Writes (.level 0) (budget + 1) value.chars (ofNumber value) := by
  cases value with
  | float value => cases h
  | integer value range =>
    obtain ⟨hLow, hHigh⟩ := h
    have hCount : value.natAbs < 0x8000000000000000 := by omega
    rw [ofNumber, Number.chars, Number.intChars]
    split
    · exact .minus (.of_primary (.digits hCount))
    · exact .of_primary (.digits hCount)

mutual

theorem writes_ofJson {value : Json} (h : value.IsLiteral) {budget : Nat}
    (hBudget : value.nesting + 2 ≤ budget) :
    Writes .expression budget value.compactChars (ofJson value) := by
  obtain ⟨below, rfl⟩ : ∃ below, budget = below + 1 := ⟨budget - 1, by omega⟩
  apply Writes.of_operand
  cases value with
  | null => exact .of_primary (.word (by decide) (List.all_eq_true.mp rfl))
  | bool value => cases value <;> exact .of_primary (.word (by decide) (List.all_eq_true.mp rfl))
  | number value =>
    obtain ⟨lower, rfl⟩ : ∃ lower, below = lower + 1 := ⟨below - 1, by omega⟩
    exact writes_ofNumber h
  | string text => exact .of_primary (.string h)
  | array items =>
    rw [Json.nesting] at hBudget
    exact .of_primary (.array (writes_ofItems h (by omega)))
  | object fields =>
    rw [Json.nesting] at hBudget
    exact .of_primary (.object (writes_ofFields h (by omega)))

theorem writes_ofItems {items : List Json} (h : IsLiteralItems items) {budget : Nat}
    (hBudget : nestingItems items + 2 ≤ budget) :
    Writes (.items .rBracket) budget (commaJoin (compactItems items) ++ [']'])
      (.array (ofItems items)) := by
  match items with
  | [] => exact .itemsEnd
  | [item] =>
    rw [nestingItems] at hBudget
    exact .itemsLast (writes_ofJson h.1 (by omega))
  | item :: next :: items =>
    rw [nestingItems] at hBudget
    have hNesting : nestingItems (next :: items) + 2 ≤ budget := by omega
    have hOthers := writes_ofItems h.2 hNesting
    have hAll := Writes.itemsMore (writes_ofJson h.1 (by omega)) hOthers
    rw [ofItems]
    simpa [compactItems, commaJoin] using hAll

theorem writes_ofFields {fields : List (String × Json)} (h : IsLiteralFields fields) {budget : Nat}
    (hBudget : nestingFields fields + 2 ≤ budget) :
    Writes .entries budget (commaJoin ((compactFields fields).map fun field =>
      stringChars field.1 ++ ':' :: field.2) ++ ['\x7d']) (.object (ofFields fields)) := by
  match fields with
  | [] => exact .entriesEnd
  | [(key, value)] =>
    rw [nestingFields] at hBudget
    exact .entriesLast h.1 (writes_ofJson h.2.1 (by omega))
  | (key, value) :: next :: fields =>
    rw [nestingFields] at hBudget
    have hNesting : nestingFields (next :: fields) + 2 ≤ budget := by omega
    have hOthers := writes_ofFields h.2.2 hNesting
    have hAll := Writes.entriesMore h.1 (writes_ofJson h.2.1 (by omega)) hOthers
    rw [ofFields]
    simpa [compactFields, commaJoin] using hAll

end

theorem Expr.ofText_compact {value : Json} (h : value.IsLiteral) (hNesting : value.nesting ≤ 126) :
    Expr.ofText value.compact = .ok (ofJson value) := by
  have hBudget : value.nesting + 2 ≤ Expr.maxDepth := Nat.add_le_add_right hNesting 2
  obtain ⟨tokens, hDerives, hSpells⟩ := writes_ofJson h hBudget
  have hNothing : Delimited [] := nofun
  have hText := hSpells [] [] hNothing (.blanks rfl)
  rw [List.append_nil, List.append_nil, ← toList_compact] at hText
  exact (ofText_eq_ok_iff _ _).mpr ⟨tokens, hText, hDerives⟩

end ParamTree
