import Mathlib.Data.List.Induction
import ParamTree.Proofs.Lenience

/-!
# Keys that collide

The keys of a plain object are resolved like texts, and two of them may become one. The object that
comes out has each key once, at the place of the first entry that sets it and with the value of the
last one. Main statements: `Substitution.get?_written`, `Substitution.written_inOrder` and
`Parameterizer.colliding_keys`.
-/

namespace ParamTree

namespace Plan

variable {I : Interface} {ε ε' α β σ : Type}
  {answer : (question : I.Question) → Act σ (I.Answer question)} {world after : World σ}

theorem exists_of_run_bind_eq_ok {plan : Plan I ε α} {f : α → Plan I ε β} {result : β}
    (h : (plan >>= f).run answer world = (some (.ok result), after)) :
    ∃ value middle, plan.run answer world = (some (.ok value), middle) ∧
      (f value).run answer middle = (some (.ok result), after) := by
  rw [run_bind] at h
  rcases hPlan : plan.run answer world with ⟨_ | error | value, middle⟩ <;> rw [hPlan] at h
  · cases h
  · cases h
  · exact ⟨value, middle, rfl, h⟩

theorem run_of_mapError_eq_ok {f : ε → ε'} {plan : Plan I ε α} {value : α}
    (h : (plan.mapError f).run answer world = (some (.ok value), after)) :
    plan.run answer world = (some (.ok value), after) := by
  rw [run_mapError] at h
  rcases hPlan : plan.run answer world with ⟨_ | error | value, middle⟩ <;> rw [hPlan] at h <;>
    cases h
  rfl

end Plan

theorem Entries.mem_keys_insert {α : Type} {entries : Entries α} {key other : String} {value : α} :
    other ∈ keys (insert entries key value) ↔ other ∈ keys entries ∨ other = key := by
  rw [keys_insert]
  split
  · rename_i hKey
    rw [or_iff_left_of_imp]
    rintro rfl
    exact hKey
  · simp

namespace Substitution

/-- What a key becomes, given the result of its text. -/
def rewritten (key : String) : Option Json → String
  | some (.string text) => text
  | _ => key

theorem resolveKey_eq (config : Config) (key : String) :
    resolveKey config key =
      Interpolation.interpolate config key >>= fun result => .done (rewritten key result) := by
  rw [resolveKey]
  congr 1
  funext result
  rcases result with _ | _ | _ | _ | text | _ | _ <;> rfl

theorem object_of_plain (config : Config) {fields : List (String × Json)}
    (h : Directive.classify fields = .plain) :
    object config (walkFields config fields) = mapping config (walkFields config fields) := by
  rw [object, classify_walkFields, h, walkedDirective, directive, Template.orKeep]
  split
  · rename_i hLenient
    exact (mapping_neverFails hLenient (walkFields_neverFail hLenient fields)).recover_eq _
  · rfl

/-- The entry has the key, and its value is present. -/
def Sets (key : String) (entry : String × Option Json) : Bool :=
  entry.1 = key ∧ entry.2.isSome

/-- The object of the entries whose value is present. -/
def written (resolved : List (String × Option Json)) : Entries Json :=
  Entries.ofList (resolved.filterMap fun entry => entry.2.map (entry.1, ·))

/-- The position of the first entry that sets the key. -/
def firstSet (resolved : List (String × Option Json)) (key : String) : Nat :=
  resolved.findIdx (Sets key)

theorem written_snoc (resolved : List (String × Option Json)) (key : String)
    (result : Option Json) :
    written (resolved ++ [(key, result)]) =
      match result with
      | some value => Entries.insert (written resolved) key value
      | none => written resolved := by
  cases result <;> simp [written, Entries.ofList, Entries.insertAll]

theorem getElem?_snoc {α : Type} {items : List α} {last item : α} {i : Nat} :
    (items ++ [last])[i]? = some item ↔
      items[i]? = some item ∨ i = items.length ∧ last = item := by
  rw [List.getElem?_append]
  split
  · rename_i hBound
    simp [Nat.ne_of_lt hBound]
  · rename_i hBound
    simp only [List.getElem?_singleton, List.getElem?_eq_none (Nat.not_lt.mp hBound)]
    split <;> simp <;> omega

theorem mem_keys_written {resolved : List (String × Option Json)} {key : String} :
    key ∈ Entries.keys (written resolved) ↔ ∃ value, (key, some value) ∈ resolved := by
  induction resolved using List.reverseRecOn with
  | nil => simp [written, Entries.ofList, Entries.insertAll, Entries.keys]
  | append_singleton resolved entry ih =>
    obtain ⟨name, _ | value⟩ := entry
    · simp [written_snoc, ih]
    · simp [written_snoc, Entries.mem_keys_insert, ih, exists_or, or_comm]

/-- A key has the value of the last entry that sets it. -/
theorem get?_written {resolved : List (String × Option Json)} {key : String} {value : Json} :
    Entries.get? (written resolved) key = some value ↔
      ∃ i : Nat, resolved[i]? = some (key, some value) ∧
        ∀ (j : Nat) (other : Json), i < j → resolved[j]? ≠ some (key, some other) := by
  induction resolved using List.reverseRecOn with
  | nil => simp [written, Entries.ofList, Entries.insertAll, Entries.get?]
  | append_singleton resolved entry ih =>
    obtain ⟨name, result⟩ := entry
    by_cases hSets : ∃ last, (name, result) = (key, some last)
    · obtain ⟨last, hEntry⟩ := hSets
      cases hEntry
      have hEnd : (resolved ++ [(key, some last)])[resolved.length]? = some (key, some last) :=
        getElem?_snoc.mpr (.inr ⟨rfl, rfl⟩)
      rw [written_snoc, Entries.get?_insert, if_pos rfl]
      constructor
      · intro hValue
        cases hValue
        refine ⟨resolved.length, hEnd, ?_⟩
        intro j other hLater hAt
        have hBound := (List.getElem?_eq_some_iff.mp hAt).1
        simp at hBound
        omega
      · rintro ⟨i, hAt, hLast⟩
        rcases getElem?_snoc.mp hAt with hBefore | ⟨-, hEntry⟩
        · exact (hLast _ last (List.getElem?_eq_some_iff.mp hBefore).1 hEnd).elim
        · cases hEntry
          rfl
    · have hSame : Entries.get? (written (resolved ++ [(name, result)])) key =
          Entries.get? (written resolved) key := by
        rw [written_snoc]
        cases result with
        | none => rfl
        | some last =>
          rw [Entries.get?_insert, if_neg]
          rintro rfl
          exact hSets ⟨last, rfl⟩
      have hAt : ∀ (i : Nat) (v : Json), (resolved ++ [(name, result)])[i]? = some (key, some v) ↔
          resolved[i]? = some (key, some v) := by
        intro i v
        rw [getElem?_snoc]
        exact or_iff_left fun hLast => hSets ⟨v, hLast.2⟩
      simp only [hSame, ne_eq, hAt, ih]

theorem firstSet_lt_iff {resolved : List (String × Option Json)} {key : String} :
    firstSet resolved key < resolved.length ↔ key ∈ Entries.keys (written resolved) := by
  rw [firstSet, List.findIdx_lt_length, mem_keys_written]
  constructor
  · rintro ⟨⟨name, result⟩, hMem, hSets⟩
    obtain ⟨rfl, hResult⟩ := of_decide_eq_true hSets
    obtain ⟨value, rfl⟩ := Option.isSome_iff_exists.mp hResult
    exact ⟨value, hMem⟩
  · rintro ⟨value, hMem⟩
    exact ⟨_, hMem, decide_eq_true ⟨rfl, rfl⟩⟩

theorem firstSet_snoc_of_mem {resolved : List (String × Option Json)} {key : String}
    (h : key ∈ Entries.keys (written resolved)) (entry : String × Option Json) :
    firstSet (resolved ++ [entry]) key = firstSet resolved key :=
  List.findIdx_append.trans (if_pos (firstSet_lt_iff.mpr h))

theorem length_le_firstSet_snoc {resolved : List (String × Option Json)} {key : String}
    (h : key ∉ Entries.keys (written resolved)) (entry : String × Option Json) :
    resolved.length ≤ firstSet (resolved ++ [entry]) key := by
  have hUnset := mt firstSet_lt_iff.mp h
  rw [firstSet] at hUnset ⊢
  rw [List.findIdx_append, if_neg hUnset]
  exact Nat.le_add_left _ _

/-- The keys stand in the order in which they were set first. -/
theorem written_inOrder (resolved : List (String × Option Json)) :
    (Entries.keys (written resolved)).Pairwise fun key other =>
      firstSet resolved key < firstSet resolved other := by
  induction resolved using List.reverseRecOn with
  | nil => simp [written, Entries.ofList, Entries.insertAll, Entries.keys]
  | append_singleton resolved entry ih =>
    have hBefore : (Entries.keys (written resolved)).Pairwise fun key other =>
        firstSet (resolved ++ [entry]) key < firstSet (resolved ++ [entry]) other := by
      apply ih.imp_of_mem
      intro key other hKey hOther hLess
      rwa [firstSet_snoc_of_mem hKey, firstSet_snoc_of_mem hOther]
    obtain ⟨name, result⟩ := entry
    cases result with
    | none => rwa [written_snoc]
    | some value =>
      rw [written_snoc, Entries.keys_insert]
      split
      · exact hBefore
      · rename_i hNew
        refine List.pairwise_append.mpr ⟨hBefore, List.pairwise_singleton _ _, ?_⟩
        intro key hKey other hOther
        obtain rfl := List.mem_singleton.mp hOther
        rw [firstSet_snoc_of_mem hKey]
        exact Nat.lt_of_lt_of_le (firstSet_lt_iff.mpr hKey) (length_le_firstSet_snoc hNew _)

end Substitution

namespace Parameterizer

variable {σ : Type} (engine : Parameterizer σ) (params : ParameterSet σ)

/-- The entries of an object come to new keys and results, one after the other. -/
inductive Resolves : List (String × Json) → World σ → List (String × Option Json) → World σ → Prop
  | nil (world : World σ) : Resolves [] world [] world
  | cons {key : String} {value : Json} {fields : List (String × Json)}
      {named result : Option Json} {resolved : List (String × Option Json)}
      {world middle later after : World σ}
      (hKey : engine.interpolate key params world = (some (.ok named), middle))
      (hValue : engine.substitute value params middle = (some (.ok result), later))
      (hFields : Resolves fields later resolved after) :
      Resolves ((key, value) :: fields) world
        ((Substitution.rewritten key named, result) :: resolved) after

theorem exists_resolves {engine : Parameterizer σ} {params : ParameterSet σ}
    {fields : List (String × Json)} {world after : World σ} {pairs : List (String × Json)}
    (h : engine.perform params (Substitution.entries engine.config
      (Substitution.walkFields engine.config fields)) world = (some (.ok pairs), after)) :
    ∃ resolved, engine.Resolves params fields world resolved after ∧
      pairs = resolved.filterMap fun entry => entry.2.map (entry.1, ·) := by
  induction fields generalizing world pairs with
  | nil =>
    cases h
    exact ⟨[], .nil _, rfl⟩
  | cons field fields ih =>
    obtain ⟨key, value⟩ := field
    obtain ⟨name, middle, hName, h⟩ := Plan.exists_of_run_bind_eq_ok h
    obtain ⟨result, later, hResult, h⟩ := Plan.exists_of_run_bind_eq_ok h
    obtain ⟨others, last, hOthers, h⟩ := Plan.exists_of_run_bind_eq_ok h
    have hName := Plan.run_of_mapError_eq_ok hName
    rw [Substitution.resolveKey_eq] at hName
    obtain ⟨named, _, hNamed, hName⟩ := Plan.exists_of_run_bind_eq_ok hName
    cases hName
    have hValue := Plan.run_of_mapError_eq_ok hResult
    cases result with
    | none =>
      cases h
      obtain ⟨resolved, hResolved, rfl⟩ := ih hOthers
      exact ⟨_, .cons hNamed hValue hResolved, rfl⟩
    | some value =>
      cases h
      obtain ⟨resolved, hResolved, rfl⟩ := ih hOthers
      exact ⟨_, .cons hNamed hValue hResolved, rfl⟩

/-- Whatever the keys of a plain object become: the result has each key that an entry with a present
value sets, once, with the value of the last such entry, and in the order of the first ones. -/
theorem colliding_keys {fields : List (String × Json)} (hPlain : Directive.classify fields = .plain)
    {world after : World σ} {result : Option Json}
    (h : engine.substitute (.object fields) params world = (some (.ok result), after)) :
    ∃ resolved out, engine.Resolves params fields world resolved after ∧
      result = some (.object out) ∧
      (Entries.keys out).Nodup ∧
      (∀ key, key ∈ Entries.keys out ↔ ∃ value, (key, some value) ∈ resolved) ∧
      (∀ key value, Entries.get? out key = some value ↔
        ∃ i : Nat, resolved[i]? = some (key, some value) ∧
          ∀ (j : Nat) (other : Json), i < j → resolved[j]? ≠ some (key, some other)) ∧
      (Entries.keys out).Pairwise fun key other =>
        Substitution.firstSet resolved key < Substitution.firstSet resolved other := by
  rw [substitute, perform, Substitution.walk, Substitution.object_of_plain _ hPlain] at h
  obtain ⟨pairs, middle, hPairs, h⟩ := Plan.exists_of_run_bind_eq_ok h
  obtain ⟨resolved, hResolved, rfl⟩ := exists_resolves hPairs
  cases h
  exact ⟨resolved, Substitution.written resolved, hResolved, rfl, Entries.nodup_ofList _,
    fun _ => Substitution.mem_keys_written, fun _ _ => Substitution.get?_written,
    Substitution.written_inOrder resolved⟩

theorem colliding_keys_absent_last_value :
    let params : ParameterSet Unit :=
      ⟨[("k", .value (.string "x")), ("a", .value (.object [("b", .null)]))]⟩
    let engine : Parameterizer Unit := .isolated .standard
    let fields : List (String × Json) := [("$\x7bk\x7d", .string "1"), ("y", .string "2"),
      ("x", .string "3"), ("$\x7b k \x7d", .string "$\x7ba.c\x7d")]
    let out : List (String × Json) := [("x", .string "3"), ("y", .string "2")]
    Directive.classify fields = .plain ∧
    (engine.substitute (.object fields) params ⟨(), 0⟩).1 = some (.ok (some (.object out))) ∧
    ∃ resolved after, engine.Resolves params fields ⟨(), 0⟩ resolved after ∧
      (∀ key, key ∈ ["x", "y"] ↔ ∃ value, (key, some value) ∈ resolved) ∧
      ∃ i : Nat, resolved[i]? = some ("x", some (.string "3")) ∧
        ∀ (j : Nat) (other : Json), i < j → resolved[j]? ≠ some ("x", some other) := by
  intro params engine fields out
  have hPlain : Directive.classify fields = .plain := rfl
  have hRun : (engine.substitute (.object fields) params ⟨(), 0⟩).1 =
      some (.ok (some (.object out))) := by decide +kernel
  obtain ⟨resolved, _, hResolved, hOut, -, hKeys, hLast, -⟩ :=
    colliding_keys engine params hPlain (Prod.ext hRun rfl)
  cases hOut
  exact ⟨hPlain, hRun, resolved, _, hResolved, hKeys, (hLast "x" (.string "3")).mp rfl⟩

end Parameterizer

end ParamTree
