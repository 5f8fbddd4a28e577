import ParamTree.Proofs.PrintedValues
import ParamTree.Template.Error

/-!
# Texts of paths

The segments of a path are written one behind the other with nothing in between. A plain key ends
where the next segment begins, an index with its digits, and any other key with its closing quote.
Main statement: `pathString_inj`, by which no two paths have one text.
-/

namespace ParamTree

open Lexer

section Front

variable {p : Char → Bool} {front other rest behind : List Char}

/-- A front part of one kind of characters ends where another kind begins. -/
theorem append_inj_of_all (hFront : ∀ c ∈ front, p c = true) (hOther : ∀ c ∈ other, p c = true)
    (hRest : ∀ c ∈ rest.head?, p c = false) (hBehind : ∀ c ∈ behind.head?, p c = false)
    (h : front ++ rest = other ++ behind) : front = other ∧ rest = behind := by
  have hTaken := congrArg (List.takeWhile p) h
  rw [takeWhile_append_tail hRest, takeWhile_append_tail hBehind,
    List.takeWhile_eq_self_iff.mpr hFront, List.takeWhile_eq_self_iff.mpr hOther] at hTaken
  subst hTaken
  exact ⟨rfl, List.append_cancel_left h⟩

end Front

theorem Json.stringChars_append_inj {text other : String} {rest behind : List Char}
    (h : stringChars text ++ rest = stringChars other ++ behind) : text = other ∧ rest = behind := by
  have hRead := Source.readString_stringChars text rest
  rw [h, Source.readString_stringChars other behind] at hRead
  obtain ⟨hText, hRest⟩ := Prod.mk.inj (Option.some.inj hRead)
  exact ⟨(StringUnit.ofText_injective hText).symm, hRest.symm⟩

namespace PathSegment

/-- What stands behind a segment: nothing, or the first sign of the next one. -/
def Follows (rest : List Char) : Prop :=
  ∀ c ∈ rest.head?, c = '.' ∨ c = '['

theorem head?_chars (segment : PathSegment) :
    segment.chars.head? = some '.' ∨ segment.chars.head? = some '[' := by
  cases segment with
  | index i => exact .inr rfl
  | key k =>
    rw [chars]
    split
    · exact .inl rfl
    · exact .inr rfl

theorem follows_flatMap (path : List PathSegment) : Follows (path.flatMap chars) := by
  cases path with
  | nil => exact nofun
  | cons segment path =>
    intro c hc
    rw [List.flatMap_cons, List.head?_append] at hc
    obtain hDot | hBracket := segment.head?_chars
    · rw [hDot] at hc
      cases hc
      exact .inl rfl
    · rw [hBracket] at hc
      cases hc
      exact .inr rfl

theorem isKeyPart_of_isPlainKey {key : List Char} (h : isPlainKey key = true) :
    ∀ c ∈ key, isKeyPart c = true := by
  cases key with
  | nil => exact nofun
  | cons c rest =>
    rw [isPlainKey, Bool.and_eq_true, List.all_eq_true] at h
    refine List.forall_mem_cons.mpr ⟨?_, h.2⟩
    have hStart := h.1
    simp only [isKeyStart, isKeyPart, Char.isAlphanum, Bool.or_eq_true] at hStart ⊢
    obtain (hAlpha | hUnderscore) | hDollar := hStart
    · exact .inl (.inl (.inl hAlpha))
    · exact .inl (.inr hUnderscore)
    · exact .inr hDollar

theorem isKeyPart_of_follows {rest : List Char} (h : Follows rest) :
    ∀ c ∈ rest.head?, isKeyPart c = false := by
  intro c hc
  obtain rfl | rfl := h c hc
  · decide
  · decide

section Inj

variable {rest behind : List Char}

theorem index_append_inj {i j : Nat}
    (h : chars (.index i) ++ rest = chars (.index j) ++ behind) : i = j ∧ rest = behind := by
  simp only [chars, List.cons_append, List.append_assoc, List.cons.injEq, true_and] at h
  have hBracket : ∀ {tail : List Char}, ∀ c ∈ (']' :: tail).head?, c.isDigit = false := by
    rintro tail c ⟨⟩
    decide
  obtain ⟨hDigits, hRest⟩ :=
    append_inj_of_all (isDigit_toDigits i) (isDigit_toDigits j) hBracket hBracket h
  have hValue := congrArg (Nat.ofDigitChars 10 · 0) hDigits
  simp only [Nat.ofDigitChars_ten_toDigits] at hValue
  exact ⟨hValue, (List.cons.inj hRest).2⟩

theorem plain_append_inj {key other : String} (hKey : isPlainKey key.toList = true)
    (hOther : isPlainKey other.toList = true) (hRest : Follows rest) (hBehind : Follows behind)
    (h : key.toList ++ rest = other.toList ++ behind) : key = other ∧ rest = behind := by
  obtain ⟨hSame, hTail⟩ := append_inj_of_all (isKeyPart_of_isPlainKey hKey)
    (isKeyPart_of_isPlainKey hOther) (isKeyPart_of_follows hRest) (isKeyPart_of_follows hBehind) h
  exact ⟨String.toList_injective hSame, hTail⟩

/-- An index begins with a digit and a quoted key with a quote. -/
theorem index_append_ne {i : Nat} {key : String} :
    Nat.toDigits 10 i ++ [']'] ++ rest ≠ Json.stringChars key ++ [']'] ++ behind := by
  intro h
  cases hDigits : Nat.toDigits 10 i with
  | nil => exact Nat.toDigits_ne_nil hDigits
  | cons first digits =>
    rw [hDigits] at h
    cases (List.cons.inj h).1
    have hDigit := isDigit_toDigits i '"' (hDigits ▸ List.mem_cons_self)
    revert hDigit
    decide

theorem quoted_append_inj {key other : String}
    (h : Json.stringChars key ++ [']'] ++ rest = Json.stringChars other ++ [']'] ++ behind) :
    key = other ∧ rest = behind := by
  rw [List.append_assoc, List.append_assoc] at h
  obtain ⟨hKey, hTail⟩ := Json.stringChars_append_inj h
  exact ⟨hKey, (List.cons.inj hTail).2⟩

/-- Two segments at the front of one text are the same. -/
theorem chars_append_inj {segment other : PathSegment} (hRest : Follows rest)
    (hBehind : Follows behind) (h : segment.chars ++ rest = other.chars ++ behind) :
    segment = other ∧ rest = behind := by
  cases segment with
  | index i =>
    cases other with
    | index j =>
      obtain ⟨rfl, hTail⟩ := index_append_inj h
      exact ⟨rfl, hTail⟩
    | key k =>
      simp only [chars] at h
      split at h
      · cases (List.cons.inj h).1
      · exact (index_append_ne (List.cons.inj h).2).elim
  | key k =>
    cases other with
    | index j =>
      simp only [chars] at h
      split at h
      · cases (List.cons.inj h).1
      · exact (index_append_ne (List.cons.inj h).2.symm).elim
    | key l =>
      simp only [chars] at h
      split at h
      · rename_i hPlain
        split at h
        · rename_i hOther
          obtain ⟨rfl, hTail⟩ := plain_append_inj hPlain hOther hRest hBehind (List.cons.inj h).2
          exact ⟨rfl, hTail⟩
        · cases (List.cons.inj h).1
      · split at h
        · cases (List.cons.inj h).1
        · obtain ⟨rfl, hTail⟩ := quoted_append_inj (List.cons.inj h).2
          exact ⟨rfl, hTail⟩

end Inj

theorem chars_ne_nil (segment : PathSegment) : segment.chars ≠ [] := by
  intro h
  obtain hDot | hBracket := segment.head?_chars
  · rw [h] at hDot
    cases hDot
  · rw [h] at hBracket
    cases hBracket

theorem flatMap_chars_inj {path other : List PathSegment}
    (h : path.flatMap chars = other.flatMap chars) : path = other := by
  induction path generalizing other with
  | nil =>
    cases other with
    | nil => rfl
    | cons segment other =>
      rw [List.flatMap_nil, List.flatMap_cons] at h
      exact (segment.chars_ne_nil (List.append_eq_nil_iff.mp h.symm).1).elim
  | cons segment path ih =>
    cases other with
    | nil =>
      rw [List.flatMap_nil, List.flatMap_cons] at h
      exact (segment.chars_ne_nil (List.append_eq_nil_iff.mp h).1).elim
    | cons first other =>
      rw [List.flatMap_cons, List.flatMap_cons] at h
      obtain ⟨rfl, hPath⟩ := chars_append_inj (follows_flatMap path) (follows_flatMap other) h
      rw [ih hPath]

/-- A path is told by its text, whatever characters the keys are made of. -/
theorem pathString_inj {path other : List PathSegment} :
    pathString path = pathString other ↔ path = other := by
  constructor
  · intro h
    exact flatMap_chars_inj (List.cons.inj (String.ofList_injective h)).2
  · rintro rfl
    rfl

/-- A key that is written like an index stays apart from it. -/
example : pathString [.key "a", .index 1, .key "[1]"] = "$.a[1][\"[1]\"]" := by decide +kernel

end PathSegment

end ParamTree
