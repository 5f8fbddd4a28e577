import ParamTree.Entries
import ParamTree.Number

/-!
# Values

A JSON value. The fields of an object stand in order; a value is well formed when no object in it
repeats a key. Two values are the same when they agree in every part, key order and kind of number
included.
-/

namespace ParamTree

inductive Json where
  | null
  | bool (value : Bool)
  | number (value : Number)
  | string (value : String)
  | array (items : List Json)
  | object (fields : List (String × Json))

namespace Json

instance : Inhabited Json := ⟨.null⟩

inductive Kind where
  | null
  | boolean
  | number
  | string
  | array
  | object
deriving DecidableEq

def Kind.name : Kind → String
  | null => "null"
  | boolean => "boolean"
  | number => "number"
  | string => "string"
  | array => "array"
  | object => "object"

def kind : Json → Kind
  | .null => .null
  | .bool _ => .boolean
  | .number _ => .number
  | .string _ => .string
  | .array _ => .array
  | .object _ => .object

def string? : Json → Option String
  | .string text => some text
  | _ => none

def fields? : Json → Option (Entries Json)
  | .object fields => some fields
  | _ => none

def ofNat (count : Nat) : Json :=
  .number (.ofNat count)

mutual

def same : Json → Json → Bool
  | .null, .null => true
  | .bool a, .bool b => a = b
  | .number a, .number b => a = b
  | .string a, .string b => a = b
  | .array xs, .array ys => sameItems xs ys
  | .object xs, .object ys => sameFields xs ys
  | _, _ => false

def sameItems : List Json → List Json → Bool
  | [], [] => true
  | x :: xs, y :: ys => same x y && sameItems xs ys
  | _, _ => false

def sameFields : List (String × Json) → List (String × Json) → Bool
  | [], [] => true
  | (k, x) :: xs, (l, y) :: ys => k = l && same x y && sameFields xs ys
  | _, _ => false

end

mutual

theorem same_iff (v w : Json) : same v w = true ↔ v = w := by
  cases v <;> cases w <;> simp only [same, decide_eq_true_eq, reduceCtorEq, Bool.false_eq_true,
    bool.injEq, number.injEq, string.injEq, array.injEq, object.injEq]
  · exact sameItems_iff _ _
  · exact sameFields_iff _ _

theorem sameItems_iff (xs ys : List Json) : sameItems xs ys = true ↔ xs = ys := by
  cases xs with
  | nil => cases ys <;> simp [sameItems]
  | cons x xs =>
    cases ys with
    | nil => simp [sameItems]
    | cons y ys =>
      simp only [sameItems, Bool.and_eq_true, List.cons.injEq]
      rw [same_iff x y, sameItems_iff xs ys]

theorem sameFields_iff (xs ys : List (String × Json)) : sameFields xs ys = true ↔ xs = ys := by
  cases xs with
  | nil => cases ys <;> simp [sameFields]
  | cons x xs =>
    cases ys with
    | nil => simp [sameFields]
    | cons y ys =>
      obtain ⟨k, x⟩ := x
      obtain ⟨l, y⟩ := y
      simp only [sameFields, Bool.and_eq_true, List.cons.injEq, decide_eq_true_eq, Prod.mk.injEq]
      rw [same_iff x y, sameFields_iff xs ys]

end

instance : DecidableEq Json := fun v w => decidable_of_iff _ (same_iff v w)

mutual

/-- No object repeats a key. -/
def WellFormed : Json → Prop
  | .array items => WellFormedItems items
  | .object fields => (Entries.keys fields).Nodup ∧ WellFormedFields fields
  | _ => True

def WellFormedItems : List Json → Prop
  | [] => True
  | item :: items => WellFormed item ∧ WellFormedItems items

def WellFormedFields : List (String × Json) → Prop
  | [] => True
  | (_, value) :: fields => WellFormed value ∧ WellFormedFields fields

end

theorem wellFormedItems_iff (items : List Json) :
    WellFormedItems items ↔ ∀ item ∈ items, WellFormed item := by
  induction items with
  | nil => simp [WellFormedItems]
  | cons item items ih => simp [WellFormedItems, ih]

theorem wellFormedFields_iff (fields : List (String × Json)) :
    WellFormedFields fields ↔ ∀ field ∈ fields, WellFormed field.2 := by
  induction fields with
  | nil => simp [WellFormedFields]
  | cons field fields ih => simp [WellFormedFields, ih]

/-- What holds of scalars, and of arrays and objects if it holds of their parts, holds of every
value. -/
@[elab_as_elim]
theorem parts_induction {P : Json → Prop} (null : P .null) (bool : ∀ value, P (.bool value))
    (number : ∀ n, P (.number n)) (string : ∀ text, P (.string text))
    (array : ∀ items, (∀ item ∈ items, P item) → P (.array items))
    (object : ∀ fields, (∀ field ∈ fields, P field.2) → P (.object fields)) (value : Json) :
    P value :=
  @Json.rec P (fun items => ∀ item ∈ items, P item) (fun fields => ∀ field ∈ fields, P field.2)
    (fun field => P field.2) null bool number string array object (fun _ hMem => nomatch hMem)
    (fun _ _ hItem hItems => List.forall_mem_cons.mpr ⟨hItem, hItems⟩)
    (fun _ hMem => nomatch hMem)
    (fun _ _ hField hFields => List.forall_mem_cons.mpr ⟨hField, hFields⟩) (fun _ _ h => h) value

end Json

end ParamTree
