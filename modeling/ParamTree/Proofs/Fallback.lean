import ParamTree.Proofs.KeyCollisions
import ParamTree.Proofs.Lossless

/-!
# Lenient documents with their fallbacks

What a lenient document comes to, said without errors. An attempt at an expression has a result or
none; where it has none, a marker keeps its text, and a directive is resolved as the plain object
that it is. Main statement: `Substitution.walk_realizes`, by which a lenient document comes to this.
-/

namespace ParamTree

variable {σ α β : Type}

/-- A computation that always comes to a value. -/
abbrev Resolver (σ α : Type) : Type := StateM (World σ) α

namespace Fallback

/-- The plan of a marker, before its result takes its place in the text. -/
def markerPlan (config : Config) (body fragment : String) : Template (Option Json) :=
  match config.dialect with
  | .expression => Template.evaluate (Text.trim body) fragment
  | .pipeline => some <$> Pipeline.run body fragment

variable (config : Config)
  (attempt : Template (Option Json) → Resolver σ (Option (Option Json)))

def piece (fragment : String) : Segment → Resolver σ String
  | .literal text => return text
  | .marker raw body => do
    let result ← attempt (markerPlan config body fragment)
    return (result.join.bind Json.scalarText?).getD raw

def pieces (fragment : String) : List Segment → Resolver σ String
  | [] => return ""
  | segment :: rest => do
    return (← piece config attempt fragment segment) ++ (← pieces fragment rest)

def text (text : String) : Resolver σ (Option Json) :=
  match config.dialect, Segment.scan config.delimiters text with
  | .expression, [.marker raw body] => do
    return (← attempt (markerPlan config body text)).getD (some (.string raw))
  | _, segments => do
    return some (.string (← pieces config attempt text segments))

def key (key : String) : Resolver σ String := do
  return Substitution.rewritten key (← text config attempt key)

def entries : Entries (Resolver σ (Option Json)) → Resolver σ (List (String × Option Json))
  | [] => return []
  | (name, value) :: fields => do
    return (← key config attempt name, ← value) :: (← entries fields)

def mapping (fields : Entries (Resolver σ (Option Json))) : Resolver σ (Option Json) := do
  return some (.object (Substitution.written (← entries config attempt fields)))

def branch (fields : Entries (Resolver σ (Option Json))) (label : String) :
    Resolver σ (Option Json) :=
  (Entries.get? fields label).getD (return none)

/-- The directive of the fields, and the object that they are if it has no result. -/
def object (fields : List (String × Json)) (resolvers : Entries (Resolver σ (Option Json))) :
    Resolver σ (Option Json) :=
  match Directive.classify fields with
  | .conditional condition _ _ => do
    match ← attempt (Substitution.decision condition) with
    | some result => branch resolvers (if truthy result then thenKey else elseKey)
    | none => mapping config attempt resolvers
  | .selection selector _ => do
    match ← attempt (Substitution.decision selector) with
    | some none => return none
    | some (some value) =>
      match value.scalarText? with
      | some label => if label = switchKey then return none else branch resolvers label
      | none => mapping config attempt resolvers
    | none => mapping config attempt resolvers
  | .evaluation expression => do
    match ← attempt (Substitution.decision expression) with
    | some result => return result
    | none => mapping config attempt resolvers
  | .plain => mapping config attempt resolvers

mutual

def walk : Json → Resolver σ (Option Json)
  | .string string => text config attempt string
  | .array items => do
    return some (.array (← walkItems items).reduceOption)
  | .object fields => object config attempt fields (walkFields fields)
  | scalar => return some scalar

def walkItems : List Json → Resolver σ (List (Option Json))
  | [] => return []
  | item :: items => do
    return (← walk item) :: (← walkItems items)

def walkFields : List (String × Json) → Entries (Resolver σ (Option Json))
  | [] => []
  | (key, value) :: fields => (key, walk value) :: walkFields fields

end

end Fallback

/-- The plan never fails, and comes to what the resolver comes to. -/
def Template.Realizes (answer : (question : TemplateQuestion) → Act σ question.Answer)
    (plan : Template α) (resolver : Resolver σ α) : Prop :=
  ∀ world, plan.run answer world =
    (some (.ok (resolver.run world).1), (resolver.run world).2)

/-- The plan comes to what the resolver comes to, and fails if that is nothing. -/
def Template.Attempts (answer : (question : TemplateQuestion) → Act σ question.Answer)
    (plan : Template α) (resolver : Resolver σ (Option α)) : Prop :=
  ∀ world,
    match (resolver.run world).1 with
    | some value => plan.run answer world = (some (.ok value), (resolver.run world).2)
    | none => ∃ error, plan.run answer world = (some (.error error), (resolver.run world).2)

namespace Template

variable {answer : (question : TemplateQuestion) → Act σ question.Answer}

theorem Realizes.done (value : α) : Realizes answer (.done value) (pure value : Resolver σ α) :=
  fun _ => rfl

/-- The resolver of the first part may come to more than the plan. -/
theorem Realizes.bind_of_map {γ : Type} {plan : Template α} {f : α → Template β}
    {first : Resolver σ γ} {present : γ → α} {next : γ → Resolver σ β}
    (h : Realizes answer plan (first >>= fun value => pure (present value)))
    (hf : ∀ value, Realizes answer (f (present value)) (next value)) :
    Realizes answer (plan >>= f) (first >>= next) := by
  intro world
  rw [Plan.run_bind, h world]
  exact hf _ _

theorem Realizes.bind {plan : Template α} {f : α → Template β} {first : Resolver σ α}
    {next : α → Resolver σ β} (h : Realizes answer plan first)
    (hf : ∀ value, Realizes answer (f value) (next value)) :
    Realizes answer (plan >>= f) (first >>= next) := by
  intro world
  rw [Plan.run_bind, h world]
  exact hf _ _

theorem Realizes.under {plan : Template α} {resolver : Resolver σ α}
    (h : Realizes answer plan resolver) (segment : PathSegment) :
    Realizes answer (Template.under segment plan) resolver := by
  intro world
  rw [Template.under, Plan.run_mapError, h world]
  rfl

theorem Realizes.orKeep {plan : Template α} {resolver : Resolver σ α}
    (h : Realizes answer plan resolver) (lenient : Bool) (kept : Template α) :
    Realizes answer (Template.orKeep lenient plan kept) resolver := by
  intro world
  rw [Template.orKeep]
  split
  · rw [Plan.run_recover, h world]
  · exact h world

theorem Attempts.under {plan : Template α} {resolver : Resolver σ (Option α)}
    (h : Attempts answer plan resolver) (segment : PathSegment) :
    Attempts answer (Template.under segment plan) resolver := by
  intro world
  have hPlan := h world
  rw [Template.under, Plan.run_mapError]
  generalize resolver.run world = ending at hPlan ⊢
  obtain ⟨_ | value, after⟩ := ending
  · obtain ⟨error, hError⟩ := hPlan
    exact ⟨_, by rw [hError]; rfl⟩
  · rw [hPlan]
    rfl

/-- Where the attempt has no result, what is kept stands in place of everything behind it too. -/
theorem Attempts.orKeep_bind {plan : Template α} {resolver : Resolver σ (Option α)}
    (h : Attempts answer plan resolver) {f : α → Template β} {kept : Template β}
    {next : Option α → Resolver σ β}
    (hf : ∀ value, Realizes answer (Template.orKeep true (f value) kept) (next (some value)))
    (hKept : Realizes answer kept (next none)) :
    Realizes answer (Template.orKeep true (plan >>= f) kept) (resolver >>= next) := by
  intro world
  have hPlan := h world
  change ((plan >>= f).recover fun _ => kept).run answer world =
    (some (.ok ((next (resolver.run world).1).run (resolver.run world).2).1),
      ((next (resolver.run world).1).run (resolver.run world).2).2)
  rw [Plan.run_recover, Plan.run_bind]
  generalize resolver.run world = ending at hPlan ⊢
  obtain ⟨_ | value, after⟩ := ending
  · obtain ⟨error, hError⟩ := hPlan
    rw [hError]
    exact hKept after
  · have hValue : ((f value).recover fun _ => kept).run answer after = _ := hf value after
    rw [hPlan, ← hValue, Plan.run_recover]

/-- A plan that is all that is attempted. -/
theorem Attempts.orKeep {plan : Template α} {resolver : Resolver σ (Option α)}
    (h : Attempts answer plan resolver) {kept : Template α} {next : Option α → Resolver σ α}
    (hf : ∀ value, next (some value) = pure value) (hKept : Realizes answer kept (next none)) :
    Realizes answer (Template.orKeep true plan kept) (resolver >>= next) := by
  rw [← Plan.bind_done plan]
  apply h.orKeep_bind _ hKept
  intro value
  rw [hf value]
  exact .done value

end Template

section Lenient

open Template

variable {answer : (question : TemplateQuestion) → Act σ question.Answer} {config : Config}
  {attempt : Template (Option Json) → Resolver σ (Option (Option Json))}

/-- Markers and the fields that decide about directives are attempted as the attempts say. -/
structure Fallback.Sound (answer : (question : TemplateQuestion) → Act σ question.Answer)
    (config : Config) (attempt : Template (Option Json) → Resolver σ (Option (Option Json))) :
    Prop where
  marker (body fragment : String) :
    Attempts answer (markerPlan config body fragment) (attempt (markerPlan config body fragment))
  decision (field : Json) :
    Attempts answer (Substitution.decision field) (attempt (Substitution.decision field))

variable (hLenient : config.isLenient = true) (h : Fallback.Sound answer config attempt)
include hLenient h

namespace Interpolation

omit hLenient h in
theorem splice_eq (body fragment : String) :
    splice config body fragment = Fallback.markerPlan config body fragment >>= fun result =>
      spliceText result (Text.trim body) fragment := by
  rw [splice.eq_def, Fallback.markerPlan.eq_def]
  cases config.dialect with
  | expression => rfl
  | pipeline => rw [bind_map_left]

omit hLenient h in
theorem spliceText_realizes (result : Option Json) (expression fragment raw : String) :
    Realizes answer (Template.orKeep true (spliceText result expression fragment) (.done raw))
      (pure ((result.bind Json.scalarText?).getD raw)) := by
  rw [spliceText]
  cases result.bind Json.scalarText? with
  | none => exact .done raw
  | some text => exact .done text

theorem marker_realizes (raw body fragment : String) :
    Realizes answer (Template.orKeep config.isLenient (splice config body fragment) (.done raw))
      (Fallback.piece config attempt fragment (.marker raw body)) := by
  rw [hLenient, splice_eq]
  exact (h.marker body fragment).orKeep_bind
    (fun result => spliceText_realizes result _ fragment raw) (.done raw)

theorem spliceSegments_realizes (fragment : String) (segments : List Segment) :
    Realizes answer (spliceSegments config fragment segments)
      (Fallback.pieces config attempt fragment segments) := by
  induction segments with
  | nil => exact .done ""
  | cons segment rest ih =>
    cases segment with
    | literal text => exact ih.bind fun others => .done (text ++ others)
    | marker raw body =>
      apply (marker_realizes hLenient h raw body fragment).bind
      intro text
      exact ih.bind fun others => .done (text ++ others)

omit hLenient h in
theorem pieces_unmarked (fragment : String) {segments : List Segment}
    (hUnmarked : ∀ segment ∈ segments, segment.isMarker = false) :
    Fallback.pieces config attempt fragment segments =
      pure (String.join (segments.map Segment.raw)) := by
  induction segments with
  | nil => rfl
  | cons segment rest ih =>
    obtain ⟨hSegment, hRest⟩ := List.forall_mem_cons.mp hUnmarked
    cases segment with
    | literal text =>
      rw [Fallback.pieces, ih hRest, List.map_cons, String.join_cons]
      rfl
    | marker raw body => cases hSegment

omit hLenient h in
theorem text_of_not_whole {text : String}
    (hNot : ∀ raw body, config.dialect = .expression →
      Segment.scan config.delimiters text = [.marker raw body] → False) :
    Fallback.text config attempt text =
      Fallback.pieces config attempt text (Segment.scan config.delimiters text) >>= fun result =>
        pure (some (.string result)) := by
  rw [Fallback.text]
  split
  · rename_i hDialect hScan
    exact (hNot _ _ hDialect hScan).elim
  · rfl

theorem ofSegments_realizes (text : String) :
    Realizes answer (ofSegments config text (Segment.scan config.delimiters text))
      (Fallback.text config attempt text) := by
  rw [ofSegments.eq_def]
  split
  · rename_i raw body hDialect hScan
    have hPlan : Template.evaluate (Text.trim body) text =
        Fallback.markerPlan config body text := by
      rw [Fallback.markerPlan.eq_def, hDialect]
    rw [Fallback.text, hDialect, hScan, hLenient, hPlan]
    exact (h.marker body text).orKeep (fun _ => rfl) (.done _)
  · rename_i hNot
    rw [text_of_not_whole hNot]
    exact (spliceSegments_realizes hLenient h text _).bind fun _ => .done _

omit hLenient h in
theorem text_unmarked {text : String}
    (hUnmarked : ∀ segment ∈ Segment.scan config.delimiters text, segment.isMarker = false) :
    Fallback.text config attempt text = pure (some (.string text)) := by
  have hNot : ∀ raw body, config.dialect = .expression →
      Segment.scan config.delimiters text = [.marker raw body] → False := by
    intro raw body _ hScan
    cases hUnmarked _ (hScan ▸ List.mem_cons_self)
  rw [text_of_not_whole hNot, pieces_unmarked text hUnmarked, Segment.join_scan]
  rfl

theorem interpolate_realizes (text : String) :
    Realizes answer (interpolate config text) (Fallback.text config attempt text) := by
  rw [interpolate]
  split
  · exact ofSegments_realizes hLenient h text
  · rename_i hNone
    rw [List.any_eq_true, not_exists] at hNone
    rw [text_unmarked fun segment hMem =>
      eq_false_of_ne_true fun hMarker => hNone segment ⟨hMem, hMarker⟩]
    exact .done _

end Interpolation

namespace Substitution

theorem resolveKey_realizes (key : String) :
    Realizes answer (resolveKey config key) (Fallback.key config attempt key) := by
  rw [resolveKey_eq]
  exact (Interpolation.interpolate_realizes hLenient h key).bind fun _ => .done _

theorem object_realizes {fields : List (String × Json)}
    (hMapping : Realizes answer (mapping config (walkFields config fields))
      (Fallback.mapping config attempt (Fallback.walkFields config attempt fields)))
    (hBranch : ∀ label, Realizes answer
      (branch label (Entries.get? (walkFields config fields) label))
      (Fallback.branch (Fallback.walkFields config attempt fields) label)) :
    Realizes answer (object config (walkFields config fields))
      (Fallback.object config attempt fields (Fallback.walkFields config attempt fields)) := by
  rw [object, hLenient, classify_walkFields, Fallback.object]
  cases Directive.classify fields with
  | conditional condition yes no =>
    apply ((h.decision condition).under _).orKeep_bind _ hMapping
    intro result
    cases hTruthy : truthy result
    · simp only [hTruthy]
      exact (hBranch elseKey).orKeep true _
    · simp only [hTruthy]
      exact (hBranch thenKey).orKeep true _
  | selection selector cases =>
    apply ((h.decision selector).under _).orKeep_bind _ hMapping
    rintro (_ | value)
    · exact (Realizes.done none).orKeep true _
    · rcases hText : value.scalarText? with _ | label
      · simp only [Interpolation.spliceText, Option.bind_some, hText]
        exact hMapping
      · simp only [Interpolation.spliceText, Option.bind_some, hText]
        change Realizes answer (Template.orKeep true
          (branch label (if label = switchKey then none else _)) _) _
        split
        · exact (Realizes.done none).orKeep true _
        · exact (hBranch label).orKeep true _
  | evaluation expression =>
    exact ((h.decision expression).under _).orKeep (fun _ => rfl) hMapping
  | plain => exact hMapping.orKeep true _

end Substitution

end Lenient

namespace Substitution

open Template

mutual

theorem walk_realizes {answer : (question : TemplateQuestion) → Act σ question.Answer}
    {config : Config} {attempt : Template (Option Json) → Resolver σ (Option (Option Json))}
    (hLenient : config.isLenient = true) (h : Fallback.Sound answer config attempt)
    (document : Json) :
    Realizes answer (walk config document) (Fallback.walk config attempt document) := by
  cases document with
  | string text => exact Interpolation.interpolate_realizes hLenient h text
  | array items =>
    exact (elements_realizes hLenient h items 0).bind_of_map fun _ => .done _
  | object fields =>
    exact object_realizes hLenient h
      ((entries_realizes hLenient h fields).bind_of_map fun _ => .done _)
      (branch_realizes hLenient h fields)
  | null | bool _ | number _ => exact .done _

theorem elements_realizes {answer : (question : TemplateQuestion) → Act σ question.Answer}
    {config : Config} {attempt : Template (Option Json) → Resolver σ (Option (Option Json))}
    (hLenient : config.isLenient = true) (h : Fallback.Sound answer config attempt)
    (items : List Json) (position : Nat) :
    Realizes answer (elements position (walkItems config items))
      (Fallback.walkItems config attempt items >>= fun results => pure results.reduceOption) := by
  cases items with
  | nil => exact .done []
  | cons item items =>
    rw [Fallback.walkItems, bind_assoc]
    apply ((walk_realizes hLenient h item).under _).bind
    intro result
    rw [bind_assoc]
    apply (elements_realizes hLenient h items (position + 1)).bind_of_map
    intro values
    cases result <;> exact .done _

theorem entries_realizes {answer : (question : TemplateQuestion) → Act σ question.Answer}
    {config : Config} {attempt : Template (Option Json) → Resolver σ (Option (Option Json))}
    (hLenient : config.isLenient = true) (h : Fallback.Sound answer config attempt)
    (fields : List (String × Json)) :
    Realizes answer (entries config (walkFields config fields))
      (Fallback.entries config attempt (Fallback.walkFields config attempt fields) >>=
        fun resolved => pure (resolved.filterMap fun entry => entry.2.map (entry.1, ·))) := by
  cases fields with
  | nil => exact .done []
  | cons field fields =>
    obtain ⟨key, value⟩ := field
    rw [Fallback.walkFields, Fallback.entries, bind_assoc]
    apply ((resolveKey_realizes hLenient h key).under _).bind
    intro name
    rw [bind_assoc]
    apply ((walk_realizes hLenient h value).under _).bind
    intro result
    rw [bind_assoc]
    apply (entries_realizes hLenient h fields).bind_of_map
    intro resolved
    cases result <;> exact .done _

theorem branch_realizes {answer : (question : TemplateQuestion) → Act σ question.Answer}
    {config : Config} {attempt : Template (Option Json) → Resolver σ (Option (Option Json))}
    (hLenient : config.isLenient = true) (h : Fallback.Sound answer config attempt)
    (fields : List (String × Json)) (label : String) :
    Realizes answer (branch label (Entries.get? (walkFields config fields) label))
      (Fallback.branch (Fallback.walkFields config attempt fields) label) := by
  cases fields with
  | nil => exact .done none
  | cons field fields =>
    obtain ⟨key, value⟩ := field
    rw [walkFields, Entries.get?, Fallback.walkFields, Fallback.branch, Entries.get?]
    split
    · exact (walk_realizes hLenient h value).under _
    · exact branch_realizes hLenient h fields label

end

end Substitution

end ParamTree
