import Mathlib.Data.List.Perm.Subperm
import ParamTree.Value.Comparison
import ParamTree.Proofs.ErrorOrigin

/-!
# Equality of values

Two values are equal if at every place they hold alike parts, or both hold nothing there. As numbers
are alike in both directions, equality is reflexive and symmetric. It is transitive where no float
stands between two integers that it is the nearest one to. Main statements: `Json.equals_iff` and
`looseEquals_equivalence_iff`.
-/

namespace ParamTree

namespace Number

theorem signed?_eq_some_iff {n : Number} {x : Int} :
    n.signed? = some x ↔ ∃ range, n = .integer x range ∧ x < 0x8000000000000000 := by
  constructor
  · intro h
    cases n with
    | float value => cases h
    | integer value range =>
      rw [signed?] at h
      split at h
      · cases h
        exact ⟨range, rfl, by assumption⟩
      · cases h
  · rintro ⟨range, rfl, hBound⟩
    exact if_pos hBound

/-- Numbers are equal if they are rounded to floats of one value and are no different integers. -/
theorem compareValue_eq_iff (m n : Number) :
    m.compareValue n = .eq ↔ m.toBinary64.scaled = n.toBinary64.scaled ∧
      ∀ x y, m.signed? = some x → n.signed? = some y → x = y := by
  rw [compareValue]
  split
  · rename_i x y hx hy
    rw [Int.compare_eq_eq]
    constructor
    · rintro rfl
      obtain ⟨_, rfl, -⟩ := signed?_eq_some_iff.mp hx
      obtain ⟨_, rfl, -⟩ := signed?_eq_some_iff.mp hy
      refine ⟨rfl, ?_⟩
      intro x' y' hx' hy'
      exact Option.some.inj (hx'.symm.trans hy')
    · intro h
      exact h.2 x y hx hy
  · rename_i hNot
    rw [Binary64.compareValue, Int.compare_eq_eq]
    constructor
    · intro h
      exact ⟨h, fun x y hx hy => (hNot x y hx hy).elim⟩
    · exact And.left

end Number

namespace Json

/-- The part that stands directly in an array or an object. -/
def part? : Json → PathSegment → Option Json
  | .object fields, .key key => Entries.get? fields key
  | .array items, .index i => items[i]?
  | _, _ => none

theorem follow?_nil (value : Json) : value.follow? [] = some value := by
  cases value <;> rfl

theorem follow?_cons (value : Json) (segment : PathSegment) (path : List PathSegment) :
    value.follow? (segment :: path) = (value.part? segment).bind (follow? · path) := by
  cases value <;> cases segment <;> simp [follow?, part?]

theorem WellFormed.part {value part : Json} {segment : PathSegment} (h : value.WellFormed)
    (hPart : value.part? segment = some part) : part.WellFormed := by
  cases value <;> cases segment <;> first | cases hPart | skip
  · exact (wellFormedItems_iff _).mp h part (List.mem_of_getElem? hPart)
  · exact (wellFormedFields_iff _).mp h.2 _ (Entries.mem_of_get? hPart)

theorem part_induction {P : Json → Prop}
    (step : ∀ value, (∀ segment part, value.part? segment = some part → P part) → P value)
    (value : Json) : P value := by
  induction value using parts_induction with
  | null | bool _ | number _ | string _ => exact step _ fun _ _ hPart => nomatch hPart
  | array items ih =>
    apply step
    intro segment part hPart
    cases segment with
    | key key => cases hPart
    | index i => exact ih part (List.mem_of_getElem? hPart)
  | object fields ih =>
    apply step
    intro segment part hPart
    cases segment with
    | key key => exact ih (key, part) (Entries.mem_of_get? hPart)
    | index i => cases hPart

/-- Whether two values are alike, apart from what arrays and objects contain. -/
def Alike : Json → Json → Prop
  | .number m, .number n => m.compareValue n = .eq
  | .array _, .array _ => True
  | .object _, .object _ => True
  | v, w => v = w

theorem Alike.refl (v : Json) : Alike v v := by
  cases v with
  | number n =>
    rw [Alike, Number.compareValue_eq_iff]
    refine ⟨rfl, ?_⟩
    intro x y hx hy
    exact Option.some.inj (hx.symm.trans hy)
  | array _ | object _ => trivial
  | null | bool _ | string _ => rfl

theorem Alike.symm {v w : Json} (h : Alike v w) : Alike w v := by
  cases v <;> cases w <;> simp_all [Alike, Number.compareValue_eq_iff]

theorem equalItems_iff (xs ys : List Json) :
    equalItems xs ys = true ↔
      ∀ i : Nat, Option.Rel (fun x y => equals x y = true) xs[i]? ys[i]? := by
  induction xs generalizing ys with
  | nil =>
    cases ys with
    | nil => exact iff_of_true rfl fun i => .none
    | cons y ys =>
      refine iff_of_false Bool.false_ne_true ?_
      intro h
      cases h 0
  | cons x xs ih =>
    cases ys with
    | nil =>
      refine iff_of_false Bool.false_ne_true ?_
      intro h
      cases h 0
    | cons y ys =>
      rw [equalItems, Bool.and_eq_true, ih]
      constructor
      · rintro ⟨hFirst, hRest⟩ i
        cases i with
        | zero => exact .some hFirst
        | succ i => exact hRest i
      · intro h
        have hFirst := h 0
        cases hFirst with
        | some hFirst => exact ⟨hFirst, fun i => h (i + 1)⟩

theorem equalFields_iff {xs ys : Entries Json} :
    equalFields xs ys = true ↔
      ∀ entry ∈ xs, ∃ y, Entries.get? ys entry.1 = some y ∧ equals entry.2 y = true := by
  induction xs with
  | nil => simp [equalFields]
  | cons entry xs ih =>
    obtain ⟨key, x⟩ := entry
    rw [equalFields, Bool.and_eq_true, ih, List.forall_mem_cons]
    cases Entries.get? ys key <;> simp

/-- Objects whose keys do not repeat are equal as dictionaries: as many keys as the other has, all of
which are there, are all of its keys. -/
theorem equals_object_iff {xs ys : Entries Json} (hXs : (Entries.keys xs).Nodup)
    (hYs : (Entries.keys ys).Nodup) :
    equals (.object xs) (.object ys) = true ↔ ∀ key, Option.Rel (fun x y => equals x y = true)
      (Entries.get? xs key) (Entries.get? ys key) := by
  rw [equals, Bool.and_eq_true, decide_eq_true_eq, equalFields_iff]
  constructor
  · rintro ⟨hLength, hEntries⟩ key
    have hSubset : Entries.keys xs ⊆ Entries.keys ys := by
      intro k hk
      obtain ⟨entry, hMem, rfl⟩ := List.mem_map.mp hk
      obtain ⟨y, hGet, -⟩ := hEntries entry hMem
      exact Entries.mem_keys_iff.mpr ⟨y, hGet⟩
    have hPerm : (Entries.keys xs).Perm (Entries.keys ys) := by
      apply (List.subperm_of_subset hXs hSubset).perm_of_length_le
      simp [Entries.keys, hLength]
    cases hx : Entries.get? xs key with
    | some x =>
      obtain ⟨y, hGet, hEquals⟩ := hEntries (key, x) (Entries.mem_of_get? hx)
      rw [hGet]
      exact .some hEquals
    | none =>
      have hAbsent : key ∉ Entries.keys ys := by
        rw [← hPerm.mem_iff]
        exact Entries.get?_eq_none_iff.mp hx
      rw [Entries.get?_eq_none_iff.mpr hAbsent]
      exact .none
  · intro h
    have hKeys : ∀ key, key ∈ Entries.keys xs ↔ key ∈ Entries.keys ys := by
      intro key
      rw [Entries.mem_keys_iff, Entries.mem_keys_iff]
      have hKey := h key
      generalize Entries.get? xs key = x, Entries.get? ys key = y at hKey ⊢
      cases hKey <;> simp
    constructor
    · have hPerm := (List.perm_ext_iff_of_nodup hXs hYs).mpr hKeys
      simpa [Entries.keys] using hPerm.length_eq
    · intro entry hMem
      have hEntry := h entry.1
      rw [Entries.get?_of_mem hXs hMem] at hEntry
      cases hGet : Entries.get? ys entry.1 with
      | none => simp [hGet] at hEntry
      | some y => exact ⟨y, rfl, by simpa [hGet] using hEntry⟩

/-- Values are equal if they are alike and have equal parts at the same segments. -/
theorem equals_iff_parts {v w : Json} (hv : v.WellFormed) (hw : w.WellFormed) :
    equals v w = true ↔ Alike v w ∧
      ∀ segment, Option.Rel (fun x y => equals x y = true) (v.part? segment) (w.part? segment) := by
  cases v with
  | array xs =>
    cases w with
    | array ys =>
      rw [equals, equalItems_iff]
      constructor
      · intro h
        refine ⟨trivial, ?_⟩
        intro segment
        cases segment with
        | key key => exact .none
        | index i => exact h i
      · rintro ⟨-, h⟩ i
        exact h (.index i)
    | null | bool _ | number _ | string _ | object _ => simp [equals, Alike]
  | object xs =>
    cases w with
    | object ys =>
      rw [equals_object_iff hv.1 hw.1]
      constructor
      · intro h
        refine ⟨trivial, ?_⟩
        intro segment
        cases segment with
        | key key => exact h key
        | index i => exact .none
      · rintro ⟨-, h⟩ key
        exact h (.key key)
    | null | bool _ | number _ | string _ | array _ => simp [equals, Alike]
  | null | bool _ | number _ | string _ => cases w <;> simp [equals, Alike, part?]

theorem forall_places_iff (v w : Json) :
    (∀ path, Option.Rel Alike (v.follow? path) (w.follow? path)) ↔ Alike v w ∧
      ∀ segment, Option.Rel (fun x y => ∀ path, Option.Rel Alike (x.follow? path) (y.follow? path))
        (v.part? segment) (w.part? segment) := by
  constructor
  · intro h
    refine ⟨by simpa [follow?_nil] using h [], ?_⟩
    intro segment
    have hSegment : ∀ path, Option.Rel Alike ((v.part? segment).bind (follow? · path))
        ((w.part? segment).bind (follow? · path)) := by
      intro path
      rw [← follow?_cons, ← follow?_cons]
      exact h (segment :: path)
    have hRoot := hSegment []
    generalize v.part? segment = x, w.part? segment = y at hSegment hRoot ⊢
    cases x <;> cases y <;> simp_all [follow?_nil]
  · rintro ⟨hAlike, hParts⟩ path
    cases path with
    | nil =>
      rw [follow?_nil, follow?_nil]
      exact .some hAlike
    | cons segment path =>
      rw [follow?_cons, follow?_cons]
      have hSegment := hParts segment
      generalize v.part? segment = x, w.part? segment = y at hSegment ⊢
      cases hSegment with
      | none => exact .none
      | some hPart => exact hPart path

/-- Two values are equal if they hold alike parts, or both hold none, at every place. -/
theorem equals_iff {v w : Json} (hv : v.WellFormed) (hw : w.WellFormed) :
    equals v w = true ↔ ∀ path, Option.Rel Alike (v.follow? path) (w.follow? path) := by
  induction v using part_induction generalizing w with
  | step v ih =>
    rw [equals_iff_parts hv hw, forall_places_iff]
    refine and_congr_right fun _ => forall_congr' fun segment => ?_
    cases hx : v.part? segment with
    | none => cases w.part? segment <;> simp
    | some x =>
      cases hy : w.part? segment with
      | none => simp
      | some y =>
        rw [Option.rel_some_some, Option.rel_some_some]
        exact ih segment x hx (hv.part hx) (hw.part hy)

/-- At no place do the two values hold different integers that 64 bits with a sign hold. -/
def IntegersAgree (v w : Json) : Prop :=
  ∀ path m n, v.follow? path = some (.number m) → w.follow? path = some (.number n) →
    ∀ x y, m.signed? = some x → n.signed? = some y → x = y

theorem Alike.trans_iff {u v w : Json} (huv : Alike u v) (hvw : Alike v w) :
    Alike u w ↔ ∀ m n, u = .number m → w = .number n →
      ∀ x y, m.signed? = some x → n.signed? = some y → x = y := by
  cases u <;> cases v <;> cases w <;> simp_all [Alike, Number.compareValue_eq_iff]

theorem equals_refl {v : Json} (hv : v.WellFormed) : equals v v = true := by
  rw [equals_iff hv hv]
  intro path
  cases v.follow? path with
  | none => exact .none
  | some part => exact .some (.refl part)

theorem equals_symm {v w : Json} (hv : v.WellFormed) (hw : w.WellFormed)
    (h : equals v w = true) : equals w v = true := by
  rw [equals_iff hw hv]
  rw [equals_iff hv hw] at h
  intro path
  have hPath := h path
  generalize v.follow? path = x, w.follow? path = y at hPath ⊢
  cases hPath with
  | none => exact .none
  | some hAlike => exact .some hAlike.symm

theorem equals_trans_iff {u v w : Json} (hu : u.WellFormed) (hv : v.WellFormed)
    (hw : w.WellFormed) (huv : equals u v = true) (hvw : equals v w = true) :
    equals u w = true ↔ IntegersAgree u w := by
  rw [equals_iff hu hv] at huv
  rw [equals_iff hv hw] at hvw
  rw [equals_iff hu hw]
  refine forall_congr' fun path => ?_
  have hLeft := huv path
  have hRight := hvw path
  generalize u.follow? path = x, v.follow? path = y, w.follow? path = z at hLeft hRight ⊢
  cases hLeft with
  | none =>
    cases hRight with
    | none => simp
  | some hLeft =>
    cases hRight with
    | some hRight => simp [hLeft.trans_iff hRight]

end Json

variable {u v w : Option Json}

/-- Equality is reflexive and symmetric. Of three results of which the second equals both others,
these are equal if and only if they hold no different integers at one place. -/
theorem looseEquals_equivalence_iff (hu : ∀ a ∈ u, a.WellFormed) (hv : ∀ a ∈ v, a.WellFormed)
    (hw : ∀ a ∈ w, a.WellFormed) :
    looseEquals u u = true ∧ (looseEquals u v = true ↔ looseEquals v u = true) ∧
      (looseEquals u v = true → looseEquals v w = true →
        (looseEquals u w = true ↔ ∀ a ∈ u, ∀ c ∈ w, a.IntegersAgree c)) := by
  refine ⟨?_, ?_, ?_⟩
  · cases u with
    | none => rfl
    | some a => exact Json.equals_refl (hu a rfl)
  · cases u <;> cases v <;> simp only [looseEquals, Bool.false_eq_true]
    rename_i a b
    exact ⟨Json.equals_symm (hu a rfl) (hv b rfl), Json.equals_symm (hv b rfl) (hu a rfl)⟩
  · intro huv hvw
    cases v with
    | none =>
      cases u with
      | some a => cases huv
      | none =>
        cases w with
        | some c => cases hvw
        | none => simp [looseEquals]
    | some b =>
      cases u with
      | none => cases huv
      | some a =>
        cases w with
        | none => cases hvw
        | some c =>
          simpa [looseEquals] using
            Json.equals_trans_iff (hu a rfl) (hv b rfl) (hw c rfl) huv hvw

theorem looseEquals_equivalence_in_other_order :
    let u : Json := .object [("a", .array [.number (.integer 1 (by decide))]), ("b", .null)]
    let v : Json := .object
      [("b", .null), ("a", .array [.number (.float ⟨false, 0x10000000000000, 1022, by decide⟩)])]
    let w : Json := .object [("b", .null), ("a", .array [.number (.integer 1 (by decide))])]
    (u.WellFormed ∧ v.WellFormed ∧ w.WellFormed) ∧
    (looseEquals (some u) (some v) = true ∧ looseEquals (some v) (some w) = true) ∧
    looseEquals (some u) (some u) = true ∧ looseEquals (some v) (some u) = true ∧
    u.IntegersAgree w := by
  intro u v w
  have hu : u.WellFormed := by
    simp [u, Json.WellFormed, Json.WellFormedItems, Json.WellFormedFields, Entries.keys]
  have hv : v.WellFormed := by
    simp [v, Json.WellFormed, Json.WellFormedItems, Json.WellFormedFields, Entries.keys]
  have hw : w.WellFormed := by
    simp [w, Json.WellFormed, Json.WellFormedItems, Json.WellFormedFields, Entries.keys]
  have huv : looseEquals (some u) (some v) = true := by
    decide +kernel
  have hvw : looseEquals (some v) (some w) = true := by
    decide +kernel
  obtain ⟨hRefl, hSymm, hTrans⟩ := @looseEquals_equivalence_iff (some u) (some v) (some w)
    (by simpa using hu) (by simpa using hv) (by simpa using hw)
  refine ⟨⟨hu, hv, hw⟩, ⟨huv, hvw⟩, hRefl, hSymm.mp huv, ?_⟩
  exact (hTrans huv hvw).mp (by decide +kernel) u rfl w rfl

/-- The float `2 ^ 53` equals the integer behind it, which is rounded to it, and the integer of its
own value. -/
theorem looseEquals_not_transitive :
    let above : Json := .number (.integer 0x20000000000001 (by decide))
    let float : Json := .number (.float ⟨false, 0x10000000000000, 1075, by decide⟩)
    let exact : Json := .number (.integer 0x20000000000000 (by decide))
    looseEquals (some above) (some float) = true ∧ looseEquals (some float) (some exact) = true ∧
      looseEquals (some above) (some exact) = false := by
  decide +kernel

end ParamTree
