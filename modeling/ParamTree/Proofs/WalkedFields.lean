import ParamTree.Template.Substitution

/-!
# Walked documents

The plan of a document is put together from those of its parts. The fields of an object keep their
keys when they are walked, so that an object stays the directive that it is. Main statements:
`walk_induction` and `classify_walkFields`.
-/

namespace ParamTree.Substitution

variable {config : Config}

/-- What holds of the plans of texts and scalars, and of those of arrays and objects if it holds of
the plans of their parts. -/
structure ClosedUnderWalk (config : Config) (P : Template (Option Json) → Prop) : Prop where
  text (text : String) : P (Interpolation.interpolate config text)
  array {items : List (Template (Option Json))} : (∀ item ∈ items, P item) →
    P (elements 0 items >>= fun values => .done (some (.array values)))
  object {fields : List (String × Field)} : (∀ field ∈ fields, P field.2.2) →
    P (object config fields)
  scalar (value : Json) : P (.done (some value))

mutual

theorem walk_induction {P : Template (Option Json) → Prop} (h : ClosedUnderWalk config P)
    (document : Json) : P (walk config document) := by
  cases document with
  | string text => exact h.text text
  | array items => exact h.array (walkItems_induction h items)
  | object fields => exact h.object (walkFields_induction h fields)
  | null | bool _ | number _ => exact h.scalar _

theorem walkItems_induction {P : Template (Option Json) → Prop} (h : ClosedUnderWalk config P)
    (items : List Json) : ∀ item ∈ walkItems config items, P item := by
  cases items with
  | nil => exact fun _ hMem => nomatch hMem
  | cons item items =>
    intro plan hMem
    obtain rfl | hMem := List.mem_cons.mp hMem
    · exact walk_induction h item
    · exact walkItems_induction h items plan hMem

theorem walkFields_induction {P : Template (Option Json) → Prop} (h : ClosedUnderWalk config P)
    (fields : List (String × Json)) : ∀ field ∈ walkFields config fields, P field.2.2 := by
  cases fields with
  | nil => exact fun _ hMem => nomatch hMem
  | cons field fields =>
    obtain ⟨key, value⟩ := field
    intro entry hMem
    obtain rfl | hMem := List.mem_cons.mp hMem
    · exact walk_induction h value
    · exact walkFields_induction h fields entry hMem

end

theorem get?_walkFields (fields : List (String × Json)) (key : String) :
    Entries.get? (walkFields config fields) key =
      (Entries.get? fields key).map fun value => (value, walk config value) := by
  induction fields with
  | nil => rfl
  | cons field fields ih =>
    obtain ⟨k, value⟩ := field
    rw [walkFields, Entries.get?, Entries.get?]
    split
    · rfl
    · exact ih

/-- What an object stands for, with its fields walked. -/
def walkedDirective (config : Config) (fields : List (String × Json)) :
    Directive Json → Directive Field
  | .conditional condition _ _ =>
    .conditional (condition, walk config condition)
      (Entries.get? (walkFields config fields) thenKey)
      (Entries.get? (walkFields config fields) elseKey)
  | .selection selector _ => .selection (selector, walk config selector) (walkFields config fields)
  | .evaluation expression => .evaluation (expression, walk config expression)
  | .plain => .plain

theorem classify_walkFields (fields : List (String × Json)) :
    Directive.classify (walkFields config fields) =
      walkedDirective config fields (Directive.classify fields) := by
  rw [Directive.classify, Directive.classify, get?_walkFields fields ifKey,
    get?_walkFields fields switchKey, get?_walkFields fields evalKey]
  cases Entries.get? fields ifKey with
  | some condition => rfl
  | none =>
    cases Entries.get? fields switchKey with
    | some selector => rfl
    | none => cases Entries.get? fields evalKey <;> rfl

end ParamTree.Substitution
