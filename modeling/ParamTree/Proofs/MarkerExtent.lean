import Mathlib.Data.List.TakeWhile
import ParamTree.Proofs.Balance
import ParamTree.Proofs.Spelling
import ParamTree.Template.Segment

/-!
# The extent of a marker

The search for the closing brace of a marker knows only quotes and brackets; what it passes over is
followed here character by character and token by token. Main statement: `findClose?_of_ofText`, the
search goes to the end of every expression that the parser accepts, and no further.
-/

namespace ParamTree

open Lexer

namespace Segment

def prepend (text : List Char) (pieces : List Char × List Char) : List Char × List Char :=
  (text ++ pieces.1, pieces.2)

/-- The search for a closing brace goes over the text, from one state to another. -/
def Passes (text : List Char) (before behind : Nat × Quoting) : Prop :=
  ∀ rest, findClose? ['}'] before.1 before.2 (text ++ rest) =
    (findClose? ['}'] behind.1 behind.2 rest).map (prepend text)

theorem passes_nil (state : Nat × Quoting) : Passes [] state state := by
  intro rest
  exact (congrFun Option.map_id _).symm

theorem passes_append {text other : List Char} {before middle behind : Nat × Quoting}
    (h : Passes text before middle) (hOther : Passes other middle behind) :
    Passes (text ++ other) before behind := by
  intro rest
  have hPrepend : prepend text ∘ prepend other = prepend (text ++ other) := by
    funext pieces
    simp [prepend]
  rw [List.append_assoc, h, hOther, Option.map_map, hPrepend]

theorem passes_singleton {c : Char} {depth : Nat} {quoting : Quoting}
    (h : quoting = .plain → depth = 0 → c ≠ '}') :
    Passes [c] (depth, quoting)
      (if quoting = .plain then depthAfter depth c else depth, quoting.next c) := by
  intro rest
  have hNot : ¬(quoting = .plain ∧ depth = 0 ∧ ['}'].isPrefixOf (c :: rest) = true) := by
    rintro ⟨hPlain, hZero, hPrefix⟩
    simp only [List.isPrefixOf, Bool.and_true, beq_iff_eq] at hPrefix
    exact h hPlain hZero hPrefix.symm
  rw [List.singleton_append, findClose?, if_neg hNot]
  rfl

theorem passes_cons {c : Char} {text : List Char} {before middle behind : Nat × Quoting}
    (h : Passes [c] before middle) (hText : Passes text middle behind) :
    Passes (c :: text) before behind :=
  passes_append h hText

/-! ### Text outside of quotes -/

def marks : List Char :=
  ['(', '[', '{', ')', ']', '}', '\'', '"']

theorem passes_plain {text : List Char} (h : ∀ c ∈ text, c ∉ marks) (depth : Nat) :
    Passes text (depth, .plain) (depth, .plain) := by
  induction text with
  | nil => exact passes_nil _
  | cons c text ih =>
    obtain ⟨hMark, hText⟩ := List.forall_mem_cons.mp h
    simp only [marks, List.mem_cons, List.not_mem_nil, or_false, not_or] at hMark
    have hFirst : Passes [c] (depth, .plain) (depthAfter depth c, Quoting.plain.next c) :=
      passes_singleton fun _ _ => hMark.2.2.2.2.2.1
    have hDepth : depthAfter depth c = depth := by simp [depthAfter, hMark]
    have hQuoting : Quoting.plain.next c = .plain := by simp [Quoting.next, isQuote, hMark]
    rw [hDepth, hQuoting] at hFirst
    exact passes_cons hFirst (ih hText)

/-- Characters with a property that brackets and quotes lack. -/
theorem passes_of_all {p : Char → Bool} (hMarks : marks.all (fun c => !p c) = true)
    {text : List Char} (h : ∀ c ∈ text, p c = true) (depth : Nat) :
    Passes text (depth, .plain) (depth, .plain) := by
  apply passes_plain
  intro c hc hMem
  have hNot := List.all_eq_true.mp hMarks c hMem
  rw [h c hc] at hNot
  cases hNot

/-! ### Quoted text -/

theorem passes_quoted {quote : Char} {text : List Char}
    (h : ∀ c ∈ text, c ≠ '\\' ∧ c ≠ quote) (depth : Nat) :
    Passes text (depth, .quoted quote) (depth, .quoted quote) := by
  induction text with
  | nil => exact passes_nil _
  | cons c text ih =>
    obtain ⟨⟨hBackslash, hQuote⟩, hText⟩ := List.forall_mem_cons.mp h
    have hFirst : Passes [c] (depth, .quoted quote) (depth, (Quoting.quoted quote).next c) :=
      passes_singleton nofun
    rw [Quoting.next, if_neg hBackslash, if_neg hQuote] at hFirst
    exact passes_cons hFirst (ih hText)

theorem passes_escape (quote c : Char) (depth : Nat) :
    Passes ['\\', c] (depth, .quoted quote) (depth, .quoted quote) := by
  have hBackslash : Passes ['\\'] (depth, .quoted quote) (depth, .escaped quote) :=
    passes_singleton nofun
  have hEscaped : Passes [c] (depth, .escaped quote) (depth, .quoted quote) :=
    passes_singleton nofun
  exact passes_cons hBackslash hEscaped

theorem passes_opening_quote {quote : Char} (h : isQuote quote = true) (depth : Nat) :
    Passes [quote] (depth, .plain) (depth, .quoted quote) := by
  have hPass : Passes [quote] (depth, .plain) (depthAfter depth quote, Quoting.plain.next quote) :=
    passes_singleton fun _ _ => by
      rintro rfl
      cases h
  have hDepth : depthAfter depth quote = depth := by
    simp only [isQuote, Bool.or_eq_true, decide_eq_true_eq] at h
    obtain rfl | rfl := h
    · rfl
    · rfl
  rwa [hDepth, Quoting.next, if_pos h] at hPass

theorem passes_closing_quote {quote : Char} (h : isQuote quote = true) (depth : Nat) :
    Passes [quote] (depth, .quoted quote) (depth, .plain) := by
  have hBackslash : quote ≠ '\\' := by
    rintro rfl
    cases h
  have hPass : Passes [quote] (depth, .quoted quote) (depth, (Quoting.quoted quote).next quote) :=
    passes_singleton nofun
  rwa [Quoting.next, if_neg hBackslash, if_pos rfl] at hPass

theorem passes_digits {quote : Char} {digits : List Char} (hQuote : isQuote quote = true)
    (h : ∀ d ∈ digits, isEscapePart d = true) (depth : Nat) :
    Passes digits (depth, .quoted quote) (depth, .quoted quote) := by
  apply passes_quoted
  intro d hd
  constructor
  · rintro rfl
    cases h _ hd
  · rintro rfl
    have hPart := h d hd
    simp only [isQuote, Bool.or_eq_true, decide_eq_true_eq] at hQuote
    obtain rfl | rfl := hQuote
    · cases hPart
    · cases hPart

/-- The search leaves a string where the string ends. -/
theorem passes_of_readString {quote : Char} {start text : List Char}
    {result : List Char × List Char} (hQuote : isQuote quote = true)
    (h : readString quote start text = .ok result) (depth : Nat) :
    ∃ inside, text = inside ++ result.2 ∧
      Passes inside (depth, .quoted quote) (depth, .plain) := by
  refine readString_induction (motive := fun text result => ∃ inside, text = inside ++ result.2 ∧
    Passes inside (depth, .quoted quote) (depth, .plain)) ?closed ?code ?short ?plain h
  case closed => exact fun after => ⟨[_], rfl, passes_closing_quote hQuote depth⟩
  case code =>
    rintro rest c result _ hEscape ⟨inside, hInside, hPasses⟩
    obtain ⟨digits, -, hAfter, -, hDigits⟩ := digits_of_readEscape hEscape
    refine ⟨['\\', 'u'] ++ (digits ++ inside), ?_, ?_⟩
    · rw [hInside] at hAfter
      rw [hAfter, ← List.append_assoc]
      rfl
    · exact passes_append (passes_escape quote 'u' depth)
        (passes_append (passes_digits hQuote hDigits depth) hPasses)
  case short =>
    rintro e rest c result _ _ _ ⟨inside, rfl, hPasses⟩
    exact ⟨['\\', e] ++ inside, rfl, passes_append (passes_escape quote e depth) hPasses⟩
  case plain =>
    rintro c rest result hNotQuote hNotBackslash ⟨inside, rfl, hPasses⟩
    have hFirst : Passes [c] (depth, .quoted quote) (depth, .quoted quote) :=
      passes_quoted (List.forall_mem_singleton.mpr ⟨hNotBackslash, hNotQuote⟩) depth
    exact ⟨c :: inside, rfl, passes_cons hFirst hPasses⟩

/-! ### Tokens -/

open Grammar

/-- The search and the tokens agree on what a bracket does to the depth. -/
theorem depthAfter_of_simpleSymbol? {c : Char} {sign : Symbol} {depth behind : Nat}
    (h : simpleSymbol? c = some sign) (hDepth : depthBehind? depth (.symbol sign) = some behind) :
    depthAfter depth c = behind ∧ isQuote c = false ∧ (depth = 0 → c ≠ '}') := by
  unfold simpleSymbol? at h
  split at h <;> cases h <;> cases depth <;> cases hDepth <;> simp [depthAfter, isQuote]

theorem passes_simple {c : Char} {sign : Symbol} {depth behind : Nat}
    (h : simpleSymbol? c = some sign) (hDepth : depthBehind? depth (.symbol sign) = some behind) :
    Passes [c] (depth, .plain) (behind, .plain) := by
  obtain ⟨rfl, hQuote, hBrace⟩ := depthAfter_of_simpleSymbol? h hDepth
  have hPass : Passes [c] (depth, .plain) (depthAfter depth c, Quoting.plain.next c) :=
    passes_singleton fun _ => hBrace
  rwa [Quoting.next, hQuote] at hPass

theorem depthBehind?_of_operatorSigns {sign : Symbol} (h : sign ∈ operatorSigns) (depth : Nat) :
    depthBehind? depth (.symbol sign) = some depth := by
  cases sign <;> first | rfl | exact absurd h (by decide)

theorem passes_of_readToken {c : Char} {rest after : List Char} {token : Token}
    {depth behind : Nat} (h : readToken c rest = .ok (token, after))
    (hDepth : depthBehind? depth token = some behind) :
    ∃ taken, c :: rest = taken ++ after ∧ Passes taken (depth, .plain) (behind, .plain) := by
  cases lexeme_of_readToken h with
  | simple hSimple => exact ⟨[c], rfl, passes_simple hSimple hDepth⟩
  | @operator sign others _ hSign hRest hParts =>
    obtain rfl := Option.some.inj ((depthBehind?_of_operatorSigns hSign depth).symm.trans hDepth)
    exact ⟨c :: others, congrArg (c :: ·) hRest, passes_of_all (by decide) hParts depth⟩
  | @number _ others _ hRest hParts =>
    cases hDepth
    exact ⟨c :: others, congrArg (c :: ·) hRest, passes_of_all (by decide) hParts depth⟩
  | @ident _ others _ hRest hParts =>
    cases hDepth
    exact ⟨c :: others, congrArg (c :: ·) hRest, passes_of_all (by decide) hParts depth⟩
  | string hQuote hRead =>
    cases hDepth
    obtain ⟨inside, hRest, hPasses⟩ := passes_of_readString hQuote hRead depth
    exact ⟨c :: inside, congrArg (c :: ·) hRest,
      passes_cons (passes_opening_quote hQuote depth) hPasses⟩

theorem passes_blanks {text : List Char} (h : ∀ c ∈ text, Text.isBlank c = true) (depth : Nat) :
    Passes text (depth, .plain) (depth, .plain) :=
  passes_of_all (by decide) h depth

theorem passes_of_spells {text : List Char} {tokens : List Token} (h : Spells text tokens)
    {depth behind : Nat} (hLeads : Leads depth tokens behind) :
    Passes text (depth, .plain) (behind, .plain) := by
  induction h generalizing depth with
  | blanks hText =>
    cases hLeads
    exact passes_blanks (List.dropWhile_eq_nil_iff.mp hText) _
  | @token text c rest token after tokens hText hToken _ ih =>
    obtain ⟨middle, hMiddle, hOthers⟩ := exists_of_leads_cons hLeads
    obtain ⟨taken, hTaken, hPasses⟩ := passes_of_readToken hToken hMiddle
    have hSplit : text = text.takeWhile Text.isBlank ++ (taken ++ after) := by
      rw [← hTaken, ← hText, List.takeWhile_append_dropWhile]
    have hBlanks : ∀ d ∈ text.takeWhile Text.isBlank, Text.isBlank d = true :=
      List.all_eq_true.mp List.all_takeWhile
    rw [hSplit]
    exact passes_append (passes_blanks hBlanks depth) (passes_append hPasses (ih hOthers))

/-- An expression ends a marker at the first brace behind it. -/
theorem findClose?_of_ofText {text : String} {e : Expr} (h : Expr.ofText text = .ok e)
    (rest : List Char) :
    findClose? ['}'] 0 .plain (text.toList ++ '}' :: rest) = some (text.toList, rest) := by
  obtain ⟨tokens, hSpells, hDerives⟩ := (Expr.ofText_eq_ok_iff text e).mp h
  have hPasses := passes_of_spells hSpells (hDerives.closed 0)
  have hBrace : findClose? ['}'] 0 .plain ('}' :: rest) = some ([], rest) := rfl
  rw [hPasses, hBrace]
  exact congrArg some (Prod.ext (List.append_nil _) rfl)

end Segment

end ParamTree
