/-!
# Ordered entries

A dictionary with text keys that remembers the order in which its keys came. A key that is set again
keeps its place and takes the new value. Main statements: `get?_insert` says what is found after a
write, `keys_insert` where a key stands, and `nodup_insert` that no key occurs twice.
-/

namespace ParamTree

abbrev Entries (α : Type) : Type := List (String × α)

namespace Entries

variable {α β : Type}

def keys (entries : Entries α) : List String :=
  entries.map Prod.fst

def get? : Entries α → String → Option α
  | [], _ => none
  | (k, v) :: rest, key => if k = key then some v else get? rest key

def contains (entries : Entries α) (key : String) : Bool :=
  (get? entries key).isSome

def insert : Entries α → String → α → Entries α
  | [], key, value => [(key, value)]
  | (k, v) :: rest, key, value =>
    if k = key then (key, value) :: rest else (k, v) :: insert rest key value

def insertAll (entries : Entries α) (pairs : List (String × α)) : Entries α :=
  pairs.foldl (fun es pair => insert es pair.1 pair.2) entries

def ofList (pairs : List (String × α)) : Entries α :=
  insertAll [] pairs

def mapValues (f : α → β) (entries : Entries α) : Entries β :=
  entries.map (fun entry => (entry.1, f entry.2))

theorem keys_mapValues (f : α → β) (entries : Entries α) :
    keys (mapValues f entries) = keys entries := by
  simp [keys, mapValues]

theorem mem_of_get? {entries : Entries α} {key : String} {value : α}
    (h : get? entries key = some value) : (key, value) ∈ entries := by
  induction entries with
  | nil => cases h
  | cons first rest ih =>
    rw [get?] at h
    split at h
    · rename_i hKey
      cases hKey
      cases h
      exact List.mem_cons_self
    · exact List.mem_cons_of_mem _ (ih h)

theorem get?_of_mem {entries : Entries α} (h : (keys entries).Nodup) {entry : String × α}
    (hMem : entry ∈ entries) : get? entries entry.1 = some entry.2 := by
  induction entries with
  | nil => cases hMem
  | cons first rest ih =>
    obtain ⟨hFirst, hRest⟩ := List.nodup_cons.mp h
    obtain rfl | hMem := List.mem_cons.mp hMem
    · exact if_pos rfl
    · have hNe : first.1 ≠ entry.1 := by
        rintro hKey
        exact hFirst (hKey ▸ List.mem_map_of_mem hMem)
      exact (if_neg hNe).trans (ih hRest hMem)

theorem get?_eq_none_iff {entries : Entries α} {key : String} :
    get? entries key = none ↔ key ∉ keys entries := by
  induction entries with
  | nil => simp [get?, keys]
  | cons entry rest ih =>
    obtain ⟨k, v⟩ := entry
    by_cases h : k = key
    · simp [get?, keys, h]
    · have hNe : key ≠ k := fun he => h he.symm
      rw [get?, if_neg h, ih]
      simp [keys, hNe]

theorem mem_keys_iff {entries : Entries α} {key : String} :
    key ∈ keys entries ↔ ∃ value, get? entries key = some value := by
  rw [← Option.ne_none_iff_exists', ne_eq, get?_eq_none_iff, Classical.not_not]

theorem get?_eq_of_perm {entries others : Entries α} (h : (keys entries).Nodup)
    (hPerm : others.Perm entries) (key : String) : get? others key = get? entries key := by
  have hOthers : (keys others).Nodup := (hPerm.map Prod.fst).nodup_iff.mpr h
  apply Option.ext
  intro value
  constructor
  · intro hValue
    exact get?_of_mem h (hPerm.mem_iff.mp (mem_of_get? hValue))
  · intro hValue
    exact get?_of_mem hOthers (hPerm.mem_iff.mpr (mem_of_get? hValue))

theorem get?_insert (entries : Entries α) (key k : String) (value : α) :
    get? (insert entries key value) k = if key = k then some value else get? entries k := by
  induction entries with
  | nil => simp [insert, get?]
  | cons entry rest ih =>
    obtain ⟨k', v⟩ := entry
    by_cases h : k' = key
    · subst h
      by_cases hk : k' = k <;> simp [insert, get?, hk]
    · simp only [insert, h, if_false, get?, ih]
      by_cases hk : k' = k
      · have hne : key ≠ k := fun he => h (hk.trans he.symm)
        simp [hk, hne]
      · simp [hk]

theorem keys_insert (entries : Entries α) (key : String) (value : α) :
    keys (insert entries key value) =
      if key ∈ keys entries then keys entries else keys entries ++ [key] := by
  induction entries with
  | nil => simp [insert, keys]
  | cons entry rest ih =>
    obtain ⟨k, v⟩ := entry
    by_cases h : k = key
    · simp [insert, keys, h]
    · have hne : key ≠ k := fun he => h he.symm
      simp only [keys] at ih
      simp only [insert, h, if_false, keys, List.map_cons, ih, List.mem_cons, hne, false_or]
      by_cases hm : key ∈ rest.map Prod.fst <;> simp [hm]

theorem nodup_insert {entries : Entries α} (h : (keys entries).Nodup) (key : String) (value : α) :
    (keys (insert entries key value)).Nodup := by
  rw [keys_insert]
  split
  · exact h
  · rename_i hk
    rw [List.nodup_append]
    refine ⟨h, by simp, ?_⟩
    intro a ha b hb he
    simp only [List.mem_singleton] at hb
    exact hk (hb ▸ he ▸ ha)

theorem insert_of_not_mem {entries : Entries α} {key : String} (h : key ∉ keys entries)
    (value : α) : insert entries key value = entries ++ [(key, value)] := by
  induction entries with
  | nil => rfl
  | cons entry rest ih =>
    obtain ⟨k, v⟩ := entry
    simp only [keys, List.map_cons, List.mem_cons, not_or] at h
    have hne : k ≠ key := fun he => h.1 he.symm
    simp only [insert, hne, if_false, List.cons_append, ih h.2]

theorem insertAll_of_nodup {entries pairs : Entries α} (h : (keys (entries ++ pairs)).Nodup) :
    insertAll entries pairs = entries ++ pairs := by
  induction pairs generalizing entries with
  | nil => simp [insertAll]
  | cons pair rest ih =>
    have hk : pair.1 ∉ keys entries := by
      simp only [keys, List.map_append, List.map_cons, List.nodup_append] at h
      exact fun hm => h.2.2 _ hm _ List.mem_cons_self rfl
    have happ : (entries ++ [pair]) ++ rest = entries ++ pair :: rest := by simp
    rw [← happ] at h ⊢
    simp only [insertAll, List.foldl_cons, insert_of_not_mem hk]
    exact ih h

theorem ofList_of_nodup {pairs : Entries α} (h : (keys pairs).Nodup) : ofList pairs = pairs := by
  simpa [ofList] using @insertAll_of_nodup α [] pairs (by simpa using h)

theorem mem_of_mem_insert {entries : Entries α} {key : String} {value : α} {entry : String × α}
    (h : entry ∈ insert entries key value) : entry = (key, value) ∨ entry ∈ entries := by
  induction entries with
  | nil => exact .inl (List.mem_singleton.mp h)
  | cons first rest ih =>
    rw [insert] at h
    split at h
    · exact (List.mem_cons.mp h).imp id (List.mem_cons_of_mem _)
    · obtain rfl | h := List.mem_cons.mp h
      · exact .inr List.mem_cons_self
      · exact (ih h).imp id (List.mem_cons_of_mem _)

theorem mem_of_mem_insertAll {entries pairs : Entries α} {entry : String × α}
    (h : entry ∈ insertAll entries pairs) : entry ∈ entries ∨ entry ∈ pairs := by
  induction pairs generalizing entries with
  | nil => exact .inl h
  | cons pair rest ih =>
    obtain h | h := ih h
    · obtain rfl | h := mem_of_mem_insert h
      · exact .inr List.mem_cons_self
      · exact .inl h
    · exact .inr (List.mem_cons_of_mem _ h)

theorem mem_of_mem_ofList {pairs : Entries α} {entry : String × α} (h : entry ∈ ofList pairs) :
    entry ∈ pairs :=
  (mem_of_mem_insertAll h).resolve_left List.not_mem_nil

theorem nodup_insertAll {entries : Entries α} (h : (keys entries).Nodup)
    (pairs : List (String × α)) : (keys (insertAll entries pairs)).Nodup := by
  induction pairs generalizing entries with
  | nil => exact h
  | cons pair rest ih => exact ih (nodup_insert h pair.1 pair.2)

theorem nodup_ofList (pairs : List (String × α)) : (keys (ofList pairs)).Nodup :=
  nodup_insertAll (by simp [keys]) pairs

end Entries

end ParamTree
