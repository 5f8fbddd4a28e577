import Mathlib.Data.List.Nodup
import ParamTree.Json.Canonical
import ParamTree.Proofs.PrintedValues

/-!
# Canonical text and sorted values

The canonical text of a value is the compact text of the value with the fields of every object in
the order of their keys, so it tells apart exactly the values that differ in more than the order of
their fields. Main statement: `Json.canonical_eq_iff_sorted_eq`.
-/

namespace ParamTree

namespace Entries

variable {α β : Type} {entries : Entries α}

/-- The entries in the order of their keys. -/
def byKey (entries : Entries α) : Entries α :=
  entries.mergeSort fun first second => first.1 ≤ second.1

theorem perm_byKey (entries : Entries α) : (byKey entries).Perm entries :=
  List.mergeSort_perm _ _

theorem pairwise_byKey (entries : Entries α) :
    (byKey entries).Pairwise fun first second => first.1 ≤ second.1 := by
  have hTrans : ∀ a b c : String × α, decide (a.1 ≤ b.1) = true → decide (b.1 ≤ c.1) = true →
      decide (a.1 ≤ c.1) = true := by
    simp only [decide_eq_true_eq]
    intro a b c hab hbc
    exact String.le_trans hab hbc
  have hTotal : ∀ a b : String × α, (decide (a.1 ≤ b.1) || decide (b.1 ≤ a.1)) = true := by
    simp only [Bool.or_eq_true, decide_eq_true_eq]
    intro a b
    exact String.le_total a.1 b.1
  exact (List.pairwise_mergeSort hTrans hTotal entries).imp of_decide_eq_true

theorem byKey_mapValues (f : α → β) (entries : Entries α) :
    byKey (mapValues f entries) = mapValues f (byKey entries) := by
  simp only [byKey, mapValues]
  rw [List.map_mergeSort]
  intro a _ b _
  rfl

/-- Entries with keys of their own have one order by key. -/
theorem eq_byKey {sorted : Entries α} (h : (keys entries).Nodup) (hPerm : sorted.Perm entries)
    (hSorted : sorted.Pairwise fun first second => first.1 < second.1) :
    sorted = byKey entries := by
  have hLe : sorted.Pairwise fun first second => first.1 ≤ second.1 :=
    hSorted.imp fun hLt => String.not_lt.mp (String.lt_asymm hLt)
  apply List.Perm.eq_of_pairwise _ hLe (pairwise_byKey entries)
    (hPerm.trans (perm_byKey entries).symm)
  intro a b ha hb hab hba
  have hKey : a.1 = b.1 := String.le_antisymm hab hba
  exact List.inj_on_of_nodup_map h (hPerm.mem_iff.mp ha) ((perm_byKey entries).mem_iff.mp hb) hKey

end Entries

namespace Json

open Entries

section Sorting

variable {α : Type} {entries : Entries α}

theorem insertByKey_perm {key : String} (h : key ∉ keys entries) (value : α) :
    (insertByKey key value entries).Perm ((key, value) :: entries) := by
  induction entries with
  | nil => exact List.Perm.refl _
  | cons entry rest ih =>
    obtain ⟨k, v⟩ := entry
    obtain ⟨hNe, hRest⟩ := not_or.mp (h ∘ List.mem_cons.mpr)
    rw [insertByKey]
    split
    · exact List.Perm.refl _
    · exact ((ih hRest).cons (k, v)).trans (List.Perm.swap _ _ _)

theorem mem_insertByKey {key : String} {value : α} {entry : String × α}
    (h : entry ∈ insertByKey key value entries) : entry = (key, value) ∨ entry ∈ entries := by
  induction entries with
  | nil => exact .inl (List.mem_singleton.mp h)
  | cons first rest ih =>
    obtain ⟨k, v⟩ := first
    rw [insertByKey] at h
    split at h
    · exact List.mem_cons.mp h
    · split at h
      · obtain hNew | hRest := List.mem_cons.mp h
        · exact .inl hNew
        · exact .inr (List.mem_cons_of_mem _ hRest)
      · obtain rfl | hRest := List.mem_cons.mp h
        · exact .inr List.mem_cons_self
        · exact (ih hRest).imp_right (List.mem_cons_of_mem _)

theorem pairwise_insertByKey (key : String) (value : α)
    (h : entries.Pairwise fun first second => first.1 < second.1) :
    (insertByKey key value entries).Pairwise fun first second => first.1 < second.1 := by
  induction entries with
  | nil => exact List.pairwise_singleton _ _
  | cons entry rest ih =>
    obtain ⟨k, v⟩ := entry
    obtain ⟨hFirst, hRest⟩ := List.pairwise_cons.mp h
    rw [insertByKey]
    split
    · rename_i hLt
      refine List.pairwise_cons.mpr ⟨?_, h⟩
      intro other hOther
      obtain rfl | hBehind := List.mem_cons.mp hOther
      · exact hLt
      · exact String.lt_trans hLt (hFirst other hBehind)
    · rename_i hNotLt
      split
      · rename_i hKey
        subst hKey
        exact List.pairwise_cons.mpr ⟨hFirst, hRest⟩
      · rename_i hNe
        have hAfter : k < key := by
          by_contra hNot
          exact hNe (String.le_antisymm (String.not_lt.mp hNot) (String.not_lt.mp hNotLt))
        refine List.pairwise_cons.mpr ⟨?_, ih hRest⟩
        intro other hOther
        obtain rfl | hBehind := mem_insertByKey hOther
        · exact hAfter
        · exact hFirst other hBehind

theorem perm_foldl_insertByKey {sorted : Entries α} (h : (keys (entries ++ sorted)).Nodup) :
    (entries.foldl (fun sorted entry => insertByKey entry.1 entry.2 sorted) sorted).Perm
      (entries ++ sorted) := by
  induction entries generalizing sorted with
  | nil => exact List.Perm.refl _
  | cons entry rest ih =>
    have hNew : entry.1 ∉ keys sorted := by
      intro hOld
      have hMem : entry.1 ∈ keys (rest ++ sorted) := by
        rw [keys, List.map_append]
        exact List.mem_append_right _ hOld
      exact (List.nodup_cons.mp h).1 hMem
    have hAll : (rest ++ insertByKey entry.1 entry.2 sorted).Perm (entry :: (rest ++ sorted)) :=
      ((insertByKey_perm hNew entry.2).append_left rest).trans List.perm_middle
    exact (ih ((hAll.map Prod.fst).nodup_iff.mpr h)).trans hAll

theorem pairwise_foldl_insertByKey {sorted : Entries α}
    (h : sorted.Pairwise fun first second => first.1 < second.1) :
    (entries.foldl (fun sorted entry => insertByKey entry.1 entry.2 sorted) sorted).Pairwise
      fun first second => first.1 < second.1 := by
  induction entries generalizing sorted with
  | nil => exact h
  | cons entry rest ih => exact ih (pairwise_insertByKey entry.1 entry.2 h)

/-- Inserting one entry after the other sorts them by key. -/
theorem sortByKey_eq_byKey (h : (keys entries).Nodup) : sortByKey entries = byKey entries := by
  have hPerm := @perm_foldl_insertByKey α entries [] (by rwa [List.append_nil])
  rw [List.append_nil] at hPerm
  exact eq_byKey h hPerm (pairwise_foldl_insertByKey List.Pairwise.nil)

end Sorting

mutual

/-- The value with the fields of every object in it in the order of their keys. -/
def sorted : Json → Json
  | .array items => .array (sortedItems items)
  | .object fields => .object (byKey (sortedFields fields))
  | scalar => scalar

def sortedItems : List Json → List Json
  | [] => []
  | item :: items => sorted item :: sortedItems items

def sortedFields : List (String × Json) → List (String × Json)
  | [] => []
  | (key, value) :: fields => (key, sorted value) :: sortedFields fields

end

theorem sortedItems_eq_map (items : List Json) : sortedItems items = items.map sorted := by
  induction items with
  | nil => rfl
  | cons item items ih => simp [sortedItems, ih]

theorem sortedFields_eq_mapValues (fields : List (String × Json)) :
    sortedFields fields = mapValues sorted fields := by
  induction fields with
  | nil => rfl
  | cons field fields ih => simp [sortedFields, mapValues, ih]

theorem canonicalItems_eq_map (items : List Json) :
    canonicalItems items = items.map canonicalChars := by
  induction items with
  | nil => rfl
  | cons item items ih => simp [canonicalItems, ih]

theorem canonicalFields_eq_mapValues (fields : List (String × Json)) :
    canonicalFields fields = mapValues canonicalChars fields := by
  induction fields with
  | nil => rfl
  | cons field fields ih => simp [canonicalFields, mapValues, ih]

theorem canonicalChars_eq {value : Json} (h : value.WellFormed) :
    value.canonicalChars = value.sorted.compactChars := by
  induction value using Json.parts_induction with
  | null => rfl
  | bool value => rfl
  | number n => rfl
  | string text => rfl
  | array items ih =>
    have hItems := (wellFormedItems_iff items).mp h
    have hTexts : items.map canonicalChars = (items.map sorted).map compactChars := by
      rw [List.map_map]
      exact List.map_congr_left fun item hItem => ih item hItem (hItems item hItem)
    rw [canonicalChars, canonicalItems_eq_map, hTexts, sorted, compactChars, compactItems_eq_map,
      sortedItems_eq_map]
  | object fields ih =>
    obtain ⟨hNodup, hWellFormed⟩ := h
    have hFields := (wellFormedFields_iff fields).mp hWellFormed
    have hTexts : mapValues canonicalChars fields =
        mapValues compactChars (mapValues sorted fields) := by
      simp only [mapValues, List.map_map]
      apply List.map_congr_left
      intro field hField
      exact congrArg (Prod.mk field.1) (ih field hField (hFields field hField))
    have hKeys : (keys (mapValues compactChars (mapValues sorted fields))).Nodup := by
      rwa [keys_mapValues, keys_mapValues]
    rw [canonicalChars, canonicalFields_eq_mapValues, hTexts, sortByKey_eq_byKey hKeys,
      byKey_mapValues, sorted, compactChars, compactFields_eq_map, sortedFields_eq_mapValues]
    rfl

/-- The canonical text is the compact text of the sorted value, and it is the same for two values
exactly where they are the same once they are sorted. -/
theorem canonical_eq_iff_sorted_eq {v w : Json} (hv : v.WellFormed) (hw : w.WellFormed) :
    v.canonical = v.sorted.compact ∧ (v.canonical = w.canonical ↔ v.sorted = w.sorted) := by
  have hText : ∀ {value : Json}, value.WellFormed → value.canonical = value.sorted.compact := by
    intro value h
    rw [canonical, canonicalChars_eq h, compact]
  refine ⟨hText hv, ?_, ?_⟩
  · intro h
    rw [hText hv, hText hw] at h
    apply compactChars_injective
    rw [← toList_compact, h, toList_compact]
  · intro h
    rw [hText hv, hText hw, h]

/-- Objects in an array may list their fields in any order, but minus zero stays apart from zero. -/
theorem canonical_eq_in_other_order :
    let minusZero : Json := .number (.float ⟨true, 0, 0, by decide⟩)
    let v : Json := .array [.object [("z", .object []), ("a,\"", minusZero)], .string "],["]
    let w : Json := .array [.object [("a,\"", minusZero), ("z", .object [])], .string "],["]
    let u : Json := .array
      [.object [("z", .object []), ("a,\"", .number (.float .zero))], .string "],["]
    (v.WellFormed ∧ w.WellFormed ∧ u.WellFormed) ∧
      (v ≠ w ∧ v.sorted = w.sorted ∧ v.canonical = w.canonical) ∧ v.canonical ≠ u.canonical := by
  intro minusZero v w u
  have hv : v.WellFormed := by
    simp [v, minusZero, WellFormed, WellFormedItems, WellFormedFields, keys]
  have hw : w.WellFormed := by
    simp [w, minusZero, WellFormed, WellFormedItems, WellFormedFields, keys]
  have hu : u.WellFormed := by
    simp [u, WellFormed, WellFormedItems, WellFormedFields, keys]
  have hSorted : v.sorted = w.sorted := by
    simp [v, w, minusZero, sorted, sortedItems, sortedFields, byKey, List.mergeSort]
  have hOther : v.sorted ≠ u.sorted := by
    simp [v, u, minusZero, sorted, sortedItems, sortedFields, byKey, List.mergeSort, Binary64.zero]
  exact ⟨⟨hv, hw, hu⟩, ⟨by decide, hSorted, (canonical_eq_iff_sorted_eq hv hw).2.mpr hSorted⟩,
    fun h => hOther ((canonical_eq_iff_sorted_eq hv hu).2.mp h)⟩

end Json

end ParamTree
