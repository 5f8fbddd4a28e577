import ParamTree.Proofs.DepthCounter

/-!
# Counts and budgets

A method that counts nested levels does what the parser does with a budget of what is left up to the
limit, and the count is the same as before when it is done. Main statements: `agrees_expression` and
`parse_eq_some_iff`.
-/

namespace ParamTree.Counting

open ParamTree.Parser (levels unaryOp? key? startsSuffix operator?)

/-! ### Places -/

/-- The last token is the end. Others may be so as well. -/
def EndsInEof (tokens : List Located) : Prop :=
  ∃ used last, tokens = used ++ [last] ∧ last.token = .eof

theorem endsInEof_of_ended {tokens : List Located} (h : Ended tokens) : EndsInEof tokens := by
  induction h with
  | last hEof => exact ⟨[], _, rfl, hEof⟩
  | cons _ _ ih =>
    obtain ⟨used, last, rfl, hLast⟩ := ih
    exact ⟨_ :: used, last, rfl, hLast⟩

section

variable {tokens : List Located}

theorem EndsInEof.restAt_last (h : EndsInEof tokens) {pos : Nat} (hPos : tokens.length - 1 ≤ pos) :
    ∃ last, restAt tokens pos = [last] ∧ last.token = .eof := by
  obtain ⟨used, last, rfl, hLast⟩ := h
  refine ⟨last, ?_, hLast⟩
  rw [List.length_append, List.length_singleton, Nat.add_sub_cancel] at hPos
  simp [restAt, Nat.min_eq_right hPos]

theorem EndsInEof.lt_of_peek (h : EndsInEof tokens) {pos : Nat}
    (hPeek : Parser.peek (restAt tokens pos) ≠ .eof) : pos < tokens.length - 1 := by
  apply Nat.lt_of_not_le
  intro hPos
  obtain ⟨last, hRest, hLast⟩ := h.restAt_last hPos
  rw [hRest] at hPeek
  exact hPeek hLast

theorem restAt_of_lt {pos : Nat} (h : pos < tokens.length - 1) :
    ∃ located, restAt tokens pos = located :: restAt tokens (pos + 1) := by
  have hLength : pos < tokens.length := by omega
  refine ⟨tokens[pos], ?_⟩
  rw [restAt, restAt, Nat.min_eq_left (Nat.le_of_lt h), Nat.min_eq_left h,
    List.drop_eq_getElem_cons hLength]

theorem advance_of_peek {rest : List Located} (h : Parser.peek rest = .eof) :
    Parser.advance rest = rest := by
  cases rest with
  | nil => rfl
  | cons located rest => exact if_pos h

theorem EndsInEof.restAt_next (h : EndsInEof tokens) {pos : Nat}
    (hPeek : Parser.peek (restAt tokens pos) ≠ .eof) :
    restAt tokens (next tokens pos) = Parser.advance (restAt tokens pos) := by
  have hPos := h.lt_of_peek hPeek
  obtain ⟨located, hRest⟩ := restAt_of_lt hPos
  rw [hRest] at hPeek ⊢
  rw [next, if_pos hPos]
  exact (if_neg hPeek).symm

theorem restAt_next_of_ended (h : Ended tokens) (pos : Nat) :
    restAt tokens (next tokens pos) = Parser.advance (restAt tokens pos) := by
  by_cases hPeek : Parser.peek (restAt tokens pos) = .eof
  · have hLast : tokens.length - 1 ≤ pos := by
      apply Nat.le_of_not_lt
      intro hPos
      have hLength : 1 < (restAt tokens pos).length := by
        rw [restAt, List.length_drop]
        omega
      have hWhole : tokens.take _ ++ restAt tokens pos = tokens := List.take_append_drop _ tokens
      obtain ⟨located, hRest⟩ := restAt_of_lt hPos
      generalize restAt tokens (pos + 1) = behind at hRest
      rw [hRest] at hPeek hWhole hLength
      rw [← hWhole] at h
      cases h.of_append with
      | last => exact Nat.lt_irrefl 1 hLength
      | cons hNot _ => exact hNot hPeek
    rw [next, if_neg (Nat.not_lt.mpr hLast), advance_of_peek hPeek]
  · exact (endsInEof_of_ended h).restAt_next hPeek

end

/-! ### Methods and parsers -/

theorem exists_less {n m : Nat} (h : n + 1 ≤ m) : ∃ less, m = less + 1 ∧ n ≤ less :=
  ⟨m - 1, by omega, by omega⟩

/-- The result of a method that begins at a place is that of a parser, and the count of levels is
as given. Errors are the same if no token but the last one is the end. -/
inductive Agrees {α : Type} (tokens : List Located) (start depth : Nat) :
    Option (Except SyntaxError (α × State)) → Except SyntaxError (α × List Located) → Prop where
  | ok {a pos} : pos ≤ max start (tokens.length - 1) →
    Agrees tokens start depth (some (.ok (a, ⟨pos, depth⟩))) (.ok (a, restAt tokens pos))
  | error {error error'} : (Ended tokens → error = error') →
    Agrees tokens start depth (some (.error error)) (.error error')

section

variable {α β : Type} {tokens : List Located} {start pos depth after : Nat} {m : Counted α}
  {s : State}

theorem Agrees.behind {result : Option (Except SyntaxError (α × State))}
    {expected : Except SyntaxError (α × List Located)} (h : Agrees tokens pos depth result expected)
    (hPos : pos ≤ max start (tokens.length - 1)) : Agrees tokens start depth result expected := by
  cases h with
  | ok hLe => exact .ok (by omega)
  | error hSame => exact .error hSame

theorem Agrees.of_ok {a : α} {expected : Except SyntaxError (α × List Located)}
    (h : Agrees tokens start depth (some (.ok (a, s))) expected) :
    ∃ pos ≤ max start (tokens.length - 1), s = ⟨pos, depth⟩ ∧
      expected = .ok (a, restAt tokens pos) := by
  cases h with
  | ok hPos => exact ⟨_, hPos, rfl, rfl⟩

theorem Agrees.erase {result : Option (Except SyntaxError (α × State))}
    {expected : Except SyntaxError (α × List Located)} (h : Agrees tokens start depth result expected)
    (hEnded : Ended tokens) : result.map (Except.map Prod.fst) = some (expected.map Prod.fst) := by
  cases h with
  | ok => rfl
  | error hSame =>
    rw [hSame hEnded]
    rfl

theorem Agrees.bind {expected : Except SyntaxError (α × List Located)} {f : α → Counted β}
    {g : α × List Located → Except SyntaxError (β × List Located)}
    (h : Agrees tokens start depth (m s) expected)
    (hf : ∀ a pos, expected = .ok (a, restAt tokens pos) →
      Agrees tokens pos after (f a ⟨pos, depth⟩) (g (a, restAt tokens pos))) :
    Agrees tokens start after ((m >>= f) s) (expected >>= g) := by
  generalize hResult : m s = result at h
  cases h with
  | @ok a pos hPos =>
    rw [bind_of_ok hResult]
    exact (hf a pos rfl).behind hPos
  | error hSame =>
    rw [bind_of_error hResult]
    exact .error hSame

/-- A nested method leaves the level that was entered for it. -/
theorem Agrees.leave {expected : Except SyntaxError (α × List Located)}
    (h : Agrees tokens start (depth + 1) (m s) expected) :
    Agrees tokens start depth ((do let a ← m; leave; return a : Counted α) s) expected := by
  generalize hResult : m s = result at h
  cases h with
  | ok hPos =>
    rw [bind_of_ok hResult]
    exact .ok hPos
  | error hSame =>
    rw [bind_of_error hResult]
    exact .error hSame

theorem agrees_pure (a : α) : Agrees tokens pos depth
    ((pure a : Counted α) ⟨pos, depth⟩) (.ok (a, restAt tokens pos)) :=
  .ok (Nat.le_max_left _ _)

theorem agrees_fail (fault : SyntaxFault) : Agrees tokens start after
    ((fail tokens fault : Counted α) ⟨pos, depth⟩)
    (Parser.failAt (restAt tokens pos) fault) :=
  .error fun _ => rfl

theorem agrees_failLate (fault : SyntaxFault) : Agrees tokens start after
    ((fail tokens fault : Counted α) ⟨next tokens pos, depth⟩)
    (Parser.failAt (Parser.advance (restAt tokens pos)) fault) :=
  .error fun hEnded => by rw [restAt_next_of_ended hEnded]

theorem advance_bind (f : Token → Counted β) : (advance tokens >>= f) ⟨pos, depth⟩ =
    f (Parser.peek (restAt tokens pos)) ⟨next tokens pos, depth⟩ := rfl

theorem peek_bind (f : Token → Counted β) : (peek tokens >>= f) ⟨pos, depth⟩ =
    f (Parser.peek (restAt tokens pos)) ⟨pos, depth⟩ := rfl

theorem upcoming_bind (f : List Located → Counted β) : (upcoming tokens >>= f) ⟨pos, depth⟩ =
    f (restAt tokens pos) ⟨pos, depth⟩ := rfl

theorem agrees_reset (a : α) : Agrees tokens pos after
    ((reset after >>= fun _ => pure a : Counted α) ⟨pos, depth⟩) (.ok (a, restAt tokens pos)) :=
  .ok (Nat.le_max_left _ _)

theorem next_le (pos : Nat) : next tokens pos ≤ max pos (tokens.length - 1) := by
  rw [next]
  split <;> omega

theorem enter_of_lt (h : depth < Expr.maxDepth) :
    enter tokens ⟨pos, depth⟩ = some (.ok ((), ⟨pos, depth + 1⟩)) := by
  change (if Expr.maxDepth < depth + 1 then _ else _ : Counted Unit) ⟨pos, depth + 1⟩ = _
  rw [if_neg (Nat.not_lt.mpr h)]
  rfl

theorem agrees_enter_deep (h : Expr.maxDepth ≤ depth) (f : Unit → Counted β) :
    Agrees tokens start after ((enter tokens >>= f) ⟨pos, depth⟩)
      (Parser.tooDeep (restAt tokens pos)) := by
  have hEnter : enter tokens ⟨pos, depth⟩ =
      some (.error ⟨.nestedTooDeeply, Parser.offset (restAt tokens pos)⟩) := by
    change (if Expr.maxDepth < depth + 1 then _ else _ : Counted Unit) ⟨pos, depth + 1⟩ = _
    rw [if_pos (Nat.lt_succ_of_le h)]
    rfl
  rw [bind_of_error hEnter]
  exact .error fun _ => rfl

end

section

variable {α β : Type} {tokens : List Located} (hEnd : EndsInEof tokens)
  {enough start pos depth after : Nat}
include hEnd

theorem eat_cases (sign : Symbol) (pos depth : Nat) :
    (Parser.eat? sign (restAt tokens pos) = some (restAt tokens (next tokens pos)) ∧
      eat tokens sign ⟨pos, depth⟩ = some (.ok (true, ⟨next tokens pos, depth⟩))) ∨
    (Parser.eat? sign (restAt tokens pos) = none ∧
      eat tokens sign ⟨pos, depth⟩ = some (.ok (false, ⟨pos, depth⟩))) := by
  have hEat : eat tokens sign ⟨pos, depth⟩ =
      if Parser.peek (restAt tokens pos) = .symbol sign then
        some (.ok (true, ⟨next tokens pos, depth⟩))
      else
        some (.ok (false, ⟨pos, depth⟩)) := by
    change (if Parser.peek (restAt tokens pos) = .symbol sign then _ else _ : Counted Bool) _ = _
    split <;> rfl
  by_cases hPeek : Parser.peek (restAt tokens pos) = .symbol sign
  · have hPos := hEnd.lt_of_peek (by rw [hPeek]; exact nofun)
    obtain ⟨located, hRest⟩ := restAt_of_lt hPos
    refine .inl ⟨?_, hEat.trans (if_pos hPeek)⟩
    rw [hRest] at hPeek ⊢
    rw [next, if_pos hPos]
    exact Parser.eat?_cons hPeek
  · exact .inr ⟨Parser.eat?_none hPeek, hEat.trans (if_neg hPeek)⟩

theorem agrees_expect (sign : Symbol) (what : Expected) {f : Unit → Counted β}
    {g : List Located → Except SyntaxError (β × List Located)}
    (hf : ∀ pos, Agrees tokens pos after (f () ⟨pos, depth⟩) (g (restAt tokens pos))) :
    Agrees tokens pos after ((expect tokens sign what >>= f) ⟨pos, depth⟩)
      (Parser.expect sign what (restAt tokens pos) >>= g) := by
  rw [expect, Parser.expect]
  obtain ⟨hEat, hTaken⟩ | ⟨hEat, hLeft⟩ := eat_cases hEnd sign pos depth
  · rw [hEat, bind_congr (bind_of_ok hTaken _)]
    exact (hf _).behind (next_le pos)
  · rw [hEat, bind_congr (bind_of_ok hLeft _)]
    exact agrees_fail _

/-- A loop over items agrees with a list of items, if the items take nothing but tokens. -/
theorem agrees_items (loop : Nat → Counted (List α)) {item : Nat → Counted α} {parser : Parser α}
    {read : List Token → α → Prop} {closing : Symbol} {what : Expected}
    (hLoop : ∀ fuel, loop (fuel + 1) = itemsTurn tokens (item fuel) (loop fuel) closing what)
    (hItem : ∀ fuel ≥ enough, ∀ pos,
      Agrees tokens pos depth (item fuel ⟨pos, depth⟩) (parser (restAt tokens pos)))
    (hReads : Parser.Reads parser read) (pos : Nat) {fuel : Nat}
    (hFuel : enough + tokens.length ≤ fuel) :
    Agrees tokens pos depth (loop (fuel + 1) ⟨pos, depth⟩)
      (Parser.items parser closing what (restAt tokens pos)) := by
  replace hFuel : enough + (restAt tokens pos).length ≤ fuel :=
    Nat.le_trans (Nat.add_le_add_left (List.drop_suffix _ _).length_le _) hFuel
  -- every turn of the loop needs one unit of fuel and takes a token at least
  induction hLength : (restAt tokens pos).length using Nat.strongRecOn generalizing pos fuel with
  | ind length ih =>
    rw [hLoop, itemsTurn, Parser.items]
    obtain ⟨hEat, hTaken⟩ | ⟨hEat, hLeft⟩ := eat_cases hEnd closing pos depth
    · rw [bind_of_ok hTaken, hEat]
      exact (agrees_pure _).behind (next_le pos)
    · rw [bind_of_ok hLeft, hEat]
      apply (hItem fuel (by omega) pos).bind
      intro first behind hFirst
      dsimp only
      obtain ⟨hComma, hTaken⟩ | ⟨hComma, hLeft⟩ := eat_cases hEnd .comma behind depth
      · rw [bind_of_ok hTaken, hComma]
        refine Agrees.behind ?_ (next_le behind)
        obtain ⟨used, hRest, -⟩ := hReads hFirst
        obtain ⟨comma, hBehind, -⟩ := Parser.exists_of_eat? hComma
        have hShorter : (restAt tokens (next tokens behind)).length < (restAt tokens pos).length := by
          rw [hRest, hBehind, List.length_append, List.length_cons]
          omega
        have hTurns : enough + (restAt tokens (next tokens behind)).length + 1 ≤ fuel := by omega
        obtain ⟨less, rfl, hLess⟩ := exists_less hTurns
        dsimp only
        rw [if_pos hShorter]
        apply (ih _ (hLength ▸ hShorter) (next tokens behind) hLess rfl).bind
        exact fun others last _ => agrees_pure _
      · rw [bind_of_ok hLeft, hComma]
        exact agrees_expect hEnd _ _ fun last => agrees_pure _

section Nested

variable {nested : Parser Expr} {read : List Token → Expr → Prop}
  (h : ∀ fuel ≥ enough, ∀ pos,
    Agrees tokens pos depth (expression tokens fuel ⟨pos, depth⟩) (nested (restAt tokens pos)))
  (hReads : Parser.Reads nested read)
include h

theorem agrees_entry {fuel : Nat} (hFuel : enough + 1 ≤ fuel) (pos : Nat) :
    Agrees tokens pos depth (entry tokens fuel ⟨pos, depth⟩)
      (Parser.entry nested (restAt tokens pos)) := by
  obtain ⟨less, rfl, hLess⟩ := exists_less hFuel
  rw [entry, advance_bind, Parser.entry]
  cases hKey : key? (Parser.peek (restAt tokens pos)) with
  | none => exact agrees_failLate _
  | some key =>
    dsimp only
    rw [← hEnd.restAt_next (eof_ne_of_key? hKey).symm]
    refine Agrees.behind ?_ (next_le pos)
    apply agrees_expect hEnd
    intro behind
    exact (h less hLess behind).bind fun value last _ => agrees_pure _

include hReads

theorem agrees_list {fuel : Nat} (hFuel : enough + tokens.length + 1 ≤ fuel) (closing : Symbol)
    (what : Expected) (pos : Nat) :
    Agrees tokens pos depth (list tokens fuel closing what ⟨pos, depth⟩)
      (Parser.items nested closing what (restAt tokens pos)) := by
  obtain ⟨less, rfl, hLess⟩ := exists_less hFuel
  exact agrees_items hEnd (list tokens · closing what) (fun _ => by rw [list]) h hReads pos hLess

theorem agrees_object {fuel : Nat} (hFuel : enough + 1 + tokens.length + 1 ≤ fuel) (pos : Nat) :
    Agrees tokens pos depth (object tokens fuel ⟨pos, depth⟩)
      (Parser.items (Parser.entry nested) .rBrace .braceAfterEntries (restAt tokens pos)) := by
  obtain ⟨less, rfl, hLess⟩ := exists_less hFuel
  exact agrees_items hEnd (object tokens) (fun _ => by rw [object])
    (fun _ hMore => agrees_entry hEnd h hMore) (Parser.reads_entry hReads) pos hLess

theorem agrees_primary {fuel : Nat} (hFuel : enough + tokens.length + 3 ≤ fuel) (pos : Nat) :
    Agrees tokens pos depth (primary tokens fuel ⟨pos, depth⟩)
      (Parser.primary nested (restAt tokens pos)) := by
  obtain ⟨less, rfl, hLess⟩ := exists_less hFuel
  rw [primary, advance_bind, Parser.primary]
  by_cases hEof : Parser.peek (restAt tokens pos) = .eof
  · rw [hEof]
    refine .error fun hEnded => ?_
    dsimp only
    rw [if_pos rfl, Nat.sub_zero, restAt_next_of_ended hEnded, advance_of_peek hEof]
  have hPos := hEnd.lt_of_peek hEof
  have hBack : next tokens pos - 1 = pos := by
    rw [next, if_pos hPos, Nat.add_sub_cancel]
  rw [← hEnd.restAt_next hEof]
  refine Agrees.behind ?_ (next_le pos)
  generalize Parser.peek (restAt tokens pos) = token at hEof ⊢
  cases token with
  | eof => exact absurd rfl hEof
  | number | string | ident => exact agrees_pure _
  | symbol sign =>
    cases sign
    case lParen =>
      apply (h less (by omega) _).bind
      intro inner behind _
      exact agrees_expect hEnd _ _ fun last => agrees_pure _
    case lBracket =>
      exact (agrees_list hEnd h hReads (by omega) _ _ _).bind fun elements last _ => agrees_pure _
    case lBrace =>
      exact (agrees_object hEnd h hReads (by omega) _).bind fun entries last _ => agrees_pure _
    all_goals
      -- no phrase begins with another sign
      change Agrees tokens _ _ (fail tokens _ ⟨next tokens pos - 1, depth⟩) _
      rw [hBack]
      exact agrees_fail _

theorem agrees_suffix {fuel : Nat} (hFuel : enough + tokens.length + 2 ≤ fuel) (target : Expr)
    (pos : Nat) (hStarts : startsSuffix (restAt tokens pos) = true) :
    Agrees tokens pos depth (suffix tokens fuel target ⟨pos, depth⟩)
      (Parser.suffix nested target (restAt tokens pos)) := by
  obtain ⟨less, rfl, hLess⟩ := exists_less hFuel
  have hNotEof : Parser.peek (restAt tokens pos) ≠ .eof := by
    intro hEof
    simp [startsSuffix, hEof] at hStarts
  rw [suffix.eq_def, Parser.suffix.eq_def]
  dsimp only
  rw [peek_bind, ← hEnd.restAt_next hNotEof]
  by_cases hCall : Parser.peek (restAt tokens pos) = .symbol .lParen
  · rw [if_pos hCall, if_pos hCall]
    cases target with
    | name callee =>
      dsimp only
      rw [advance_bind]
      refine Agrees.behind ?_ (next_le pos)
      exact (agrees_list hEnd h hReads hLess _ _ _).bind fun args last _ => agrees_pure _
    | _ => exact agrees_fail _
  rw [if_neg hCall, if_neg hCall]
  by_cases hDot : Parser.peek (restAt tokens pos) = .symbol .dot
  · rw [if_pos hDot, if_pos hDot, advance_bind, advance_bind]
    refine Agrees.behind ?_ (next_le pos)
    generalize hName : Parser.peek (restAt tokens (next tokens pos)) = name
    cases name with
    | ident property =>
      dsimp only
      rw [← hEnd.restAt_next (by simp [hName])]
      exact (agrees_pure _).behind (next_le _)
    | _ => exact agrees_failLate _
  · rw [if_neg hDot, if_neg hDot, advance_bind]
    refine Agrees.behind ?_ (next_le pos)
    apply (h less (by omega) _).bind
    intro index behind _
    exact agrees_expect hEnd _ _ fun last => agrees_pure _

end Nested

/-- With enough fuel, the method does what the parser does with a budget of what is left up to the
limit, as long as this is less than the bound. -/
def SimulatesBelow (tokens : List Located) (bound enough : Nat) (m : Nat → Counted Expr)
    (nested : Nat → Parser Expr) : Prop :=
  ∀ depth, Expr.maxDepth - depth < bound → ∀ fuel ≥ enough, ∀ pos,
    Agrees tokens pos depth (m fuel ⟨pos, depth⟩)
      (nested (Expr.maxDepth - depth) (restAt tokens pos))

omit hEnd in
theorem SimulatesBelow.mono {m : Nat → Counted Expr} {nested : Nat → Parser Expr} {bound other : Nat}
    (h : SimulatesBelow tokens bound enough m nested) (hLe : other ≤ bound) :
    SimulatesBelow tokens other enough m nested :=
  fun depth hDepth => h depth (Nat.lt_of_lt_of_le hDepth hLe)

theorem agrees_suffixes {nested : Nat → Parser Expr} {read : Nat → List Token → Expr → Prop}
    (hReads : ∀ budget, Parser.Reads (nested budget) (read budget)) {mark depth : Nat}
    (h : SimulatesBelow tokens (Expr.maxDepth - depth) enough (expression tokens) nested)
    {fuel : Nat} (hFuel : enough + tokens.length + 2 + (Expr.maxDepth - depth) + 1 ≤ fuel)
    (target : Expr) (pos : Nat) :
    Agrees tokens pos mark (suffixes tokens fuel mark target ⟨pos, depth⟩)
      (Parser.suffixes nested (Expr.maxDepth - depth) target (restAt tokens pos)) := by
  generalize hBudget : Expr.maxDepth - depth = budget at h hFuel ⊢
  induction budget generalizing depth target pos fuel with
  | zero =>
    obtain ⟨less, rfl, -⟩ := exists_less hFuel
    rw [suffixes.eq_def, Parser.suffixes]
    dsimp only
    rw [upcoming_bind]
    split
    · exact agrees_enter_deep (Nat.le_of_sub_eq_zero hBudget) _
    · exact agrees_reset target
  | succ budget ih =>
    obtain ⟨less, rfl, hLess⟩ := exists_less hFuel
    rw [suffixes.eq_def, Parser.suffixes]
    dsimp only
    rw [upcoming_bind]
    split
    · rename_i hStarts
      rw [bind_of_ok (enter_of_lt (by omega))]
      have hLeft : Expr.maxDepth - (depth + 1) = budget := by omega
      have hNested := hLeft ▸ h (depth + 1) (by omega)
      apply (agrees_suffix hEnd hNested (hReads budget) (by omega) target pos hStarts).bind
      intro longer behind _
      exact ih longer behind hLeft (h.mono (Nat.le_succ _)) hLess
    · exact agrees_reset target

theorem agrees_postfixed {nested : Nat → Parser Expr} {read : Nat → List Token → Expr → Prop}
    (hReads : ∀ budget, Parser.Reads (nested budget) (read budget))
    (h : SimulatesBelow tokens (Expr.maxDepth - depth + 1) enough (expression tokens) nested)
    {fuel : Nat} (hFuel : enough + tokens.length + 3 + Expr.maxDepth + 1 ≤ fuel) (pos : Nat) :
    Agrees tokens pos depth (postfixed tokens fuel ⟨pos, depth⟩)
      (Parser.postfixed nested (Expr.maxDepth - depth) (restAt tokens pos)) := by
  obtain ⟨less, rfl, hLess⟩ := exists_less hFuel
  rw [postfixed]
  have hNested := h depth (Nat.lt_succ_self _)
  apply (agrees_primary hEnd hNested (hReads _) (by omega) pos).bind
  intro target behind _
  exact agrees_suffixes hEnd hReads (h.mono (Nat.le_succ _)) (by omega) target behind

omit hEnd in
theorem peek_of_operator? {operators : Parser.Operators} {rest : List Located}
    {join : Expr → Expr → Expr} (h : operator? operators rest = some join) :
    Parser.peek rest ≠ .eof := by
  intro hEof
  rw [operator?, hEof] at h
  cases h

section Level

variable {operand : Nat → Parser Expr} {count : Nat} {operators : Parser.Operators}
  (hOperators : levels[count]? = some operators)
include hOperators

theorem agrees_chain {mark depth : Nat}
    (h : SimulatesBelow tokens (Expr.maxDepth - depth) enough (level tokens · count) operand)
    {fuel : Nat} (hFuel : enough + (Expr.maxDepth - depth) + 1 ≤ fuel) (left : Expr) (pos : Nat) :
    Agrees tokens pos mark (chain tokens fuel count mark left ⟨pos, depth⟩)
      (Parser.chain operators operand (Expr.maxDepth - depth) left (restAt tokens pos)) := by
  generalize hBudget : Expr.maxDepth - depth = budget at h hFuel ⊢
  induction budget generalizing depth left pos fuel with
  | zero =>
    obtain ⟨less, rfl, -⟩ := exists_less hFuel
    rw [chain, upcoming_bind, hOperators, Option.bind_some, Parser.chain]
    cases hJoin : operator? operators (restAt tokens pos) with
    | none => exact agrees_reset left
    | some join =>
      dsimp only
      rw [advance_bind, ← hEnd.restAt_next (peek_of_operator? hJoin)]
      exact agrees_enter_deep (Nat.le_of_sub_eq_zero hBudget) _
  | succ budget ih =>
    obtain ⟨less, rfl, hLess⟩ := exists_less hFuel
    rw [chain, upcoming_bind, hOperators, Option.bind_some, Parser.chain]
    cases hJoin : operator? operators (restAt tokens pos) with
    | none => exact agrees_reset left
    | some join =>
      dsimp only
      rw [advance_bind, ← hEnd.restAt_next (peek_of_operator? hJoin),
        bind_of_ok (enter_of_lt (by omega))]
      refine Agrees.behind ?_ (next_le pos)
      have hLeft : Expr.maxDepth - (depth + 1) = budget := by omega
      apply (hLeft ▸ h (depth + 1) (by omega) less (by omega) _).bind
      intro right behind _
      exact ih _ behind hLeft (h.mono (Nat.le_succ _)) hLess

theorem simulatesBelow_level {bound : Nat}
    (h : SimulatesBelow tokens bound enough (level tokens · count) operand) :
    SimulatesBelow tokens bound (enough + Expr.maxDepth + 1 + 1) (level tokens · (count + 1))
      (Parser.level operand operators) := by
  intro depth hDepth fuel hFuel pos
  obtain ⟨less, rfl, hLess⟩ := exists_less hFuel
  dsimp only
  rw [level]
  apply (h depth hDepth less (by omega) pos).bind
  intro left behind _
  exact agrees_chain hEnd hOperators (h.mono (Nat.le_of_lt hDepth)) (by omega) left behind

end Level

/-- Each level of operators needs as much fuel as a chain of the greatest length. -/
def levelFuel (enough count : Nat) : Nat :=
  enough + 1 + count * (Expr.maxDepth + 1 + 1)

theorem simulatesBelow_levelOf {operand : Nat → Parser Expr} {bound : Nat}
    (h : SimulatesBelow tokens bound enough (unary tokens) operand) {count : Nat} (hCount : count ≤ 6) :
    SimulatesBelow tokens bound (levelFuel enough count) (level tokens · count)
      (Parser.levelOf operand count) := by
  apply Parser.levelOf_induction (motive := fun count nested =>
    SimulatesBelow tokens bound (levelFuel enough count) (level tokens · count) nested) _ _ hCount
  · intro depth hDepth fuel hFuel pos
    rw [levelFuel, Nat.zero_mul] at hFuel
    obtain ⟨less, rfl, hLess⟩ := exists_less hFuel
    dsimp only
    rw [level]
    exact h depth hDepth less hLess pos
  · intro count operators nested hOperators hNested
    rw [levelFuel, Nat.succ_mul, ← Nat.add_assoc]
    exact simulatesBelow_level hEnd hOperators hNested

theorem agrees_conditional {condition branch : Parser Expr}
    (hCondition : ∀ fuel ≥ enough, ∀ pos, Agrees tokens pos depth (level tokens fuel 6 ⟨pos, depth⟩)
      (condition (restAt tokens pos)))
    (hBranch : ∀ fuel ≥ enough, ∀ pos, Agrees tokens pos depth (expression tokens fuel ⟨pos, depth⟩)
      (branch (restAt tokens pos))) {fuel : Nat} (hFuel : enough + 1 ≤ fuel) (pos : Nat) :
    Agrees tokens pos depth (conditional tokens fuel ⟨pos, depth⟩)
      (Parser.conditional condition branch (restAt tokens pos)) := by
  obtain ⟨less, rfl, hLess⟩ := exists_less hFuel
  rw [conditional]
  apply (hCondition less hLess pos).bind
  intro e behind _
  dsimp only
  obtain ⟨hEat, hTaken⟩ | ⟨hEat, hLeft⟩ := eat_cases hEnd .question behind depth
  · rw [bind_of_ok hTaken, hEat]
    refine Agrees.behind ?_ (next_le behind)
    apply (hBranch less hLess _).bind
    intro yes last _
    apply agrees_expect hEnd
    intro colon
    exact (hBranch less hLess colon).bind fun no final _ => agrees_pure _
  · rw [bind_of_ok hLeft, hEat]
    exact agrees_pure e

/-- Behind the operations, each nested level needs two units of fuel. -/
def expressionFuel (enough budget : Nat) : Nat :=
  levelFuel enough 6 + 1 + 2 * budget

omit hEnd in
theorem levelFuel_le_expressionFuel (budget : Nat) :
    levelFuel enough 6 ≤ expressionFuel enough budget := by
  rw [expressionFuel]
  omega

theorem simulatesBelow_expression {operand : Nat → Parser Expr} {bound : Nat}
    (h : SimulatesBelow tokens bound enough (unary tokens) operand) :
    SimulatesBelow tokens (bound + 1) (expressionFuel enough Expr.maxDepth) (expression tokens)
      (Parser.expression operand) := by
  intro depth hDepth fuel hFuel pos
  replace hFuel : expressionFuel enough (Expr.maxDepth - depth) ≤ fuel := by
    rw [expressionFuel] at hFuel ⊢
    omega
  generalize hBudget : Expr.maxDepth - depth = budget at hDepth hFuel ⊢
  induction budget generalizing depth fuel pos with
  | zero =>
    obtain ⟨less, rfl, -⟩ := exists_less hFuel
    rw [expression]
    exact agrees_enter_deep (Nat.le_of_sub_eq_zero hBudget) _
  | succ budget ih =>
    have hTwo : expressionFuel enough budget + 1 + 1 ≤ fuel := hFuel
    obtain ⟨less, rfl, hLess⟩ := exists_less hTwo
    have hLeft : Expr.maxDepth - (depth + 1) = budget := by omega
    have hBranch := fun fuel hFuel place =>
      ih (depth + 1) fuel place hLeft (Nat.lt_of_succ_lt hDepth) hFuel
    have hOperation := simulatesBelow_levelOf hEnd h (Nat.le_refl 6) (depth + 1) (by omega)
    rw [hLeft] at hOperation
    have hCondition := fun fuel (hFuel : expressionFuel enough budget ≤ fuel) =>
      hOperation fuel (Nat.le_trans (levelFuel_le_expressionFuel budget) hFuel)
    rw [expression, bind_of_ok (enter_of_lt (by omega)), Parser.expression]
    exact (agrees_conditional hEnd hCondition hBranch hLess pos).leave

theorem simulatesBelow_unary (bound : Nat) :
    ∃ enough, SimulatesBelow tokens bound enough (unary tokens) Parser.operand := by
  induction bound with
  | zero => exact ⟨0, nofun⟩
  | succ bound ih =>
    obtain ⟨enough, h⟩ := ih
    have hNested := simulatesBelow_expression hEnd h
    refine
      ⟨enough + expressionFuel enough Expr.maxDepth + tokens.length + 3 + Expr.maxDepth + 1 + 1, ?_⟩
    intro depth hDepth fuel hFuel pos
    obtain ⟨less, rfl, hLess⟩ := exists_less hFuel
    rw [unary, peek_bind, Parser.operand_eq, Parser.operandStep]
    cases hOp : unaryOp? (Parser.peek (restAt tokens pos)) with
    | none =>
      exact agrees_postfixed hEnd (fun budget => Parser.reads_expression fun b _ =>
        Parser.reads_operand b) (hNested.mono (Nat.succ_le_of_lt hDepth)) (by omega) pos
    | some op =>
      have hNotEof : Parser.peek (restAt tokens pos) ≠ .eof := fun hEof => by
        rw [hEof] at hOp
        cases hOp
      dsimp only
      rw [advance_bind, ← hEnd.restAt_next hNotEof]
      refine Agrees.behind ?_ (next_le pos)
      generalize hBudget : Expr.maxDepth - depth = budget at hDepth ⊢
      cases budget with
      | zero => exact agrees_enter_deep (Nat.le_of_sub_eq_zero hBudget) _
      | succ budget =>
        have hLeft : Expr.maxDepth - (depth + 1) = budget := by omega
        rw [bind_of_ok (enter_of_lt (by omega))]
        have hInner := h (depth + 1) (by omega) less (by omega) (next tokens pos)
        rw [hLeft] at hInner
        exact hInner.bind fun inner last _ => .ok (Nat.le_max_left _ _)

theorem agrees_expression : ∃ enough, ∀ fuel ≥ enough, ∀ depth pos,
    Agrees tokens pos depth (expression tokens fuel ⟨pos, depth⟩)
      (Parser.expression Parser.operand (Expr.maxDepth - depth) (restAt tokens pos)) := by
  obtain ⟨enough, h⟩ := simulatesBelow_unary hEnd (Expr.maxDepth + 1)
  have hExpression := simulatesBelow_expression hEnd h
  exact ⟨_, fun fuel hFuel depth pos => hExpression depth (by omega) fuel hFuel pos⟩

theorem agrees_whole : ∃ enough, ∀ fuel ≥ enough, Agrees tokens 0 0 (whole tokens fuel ⟨0, 0⟩)
    ((Parser.expression Parser.operand Expr.maxDepth (restAt tokens 0) >>=
      fun result => if Parser.peek result.2 = .eof then .ok result
        else Parser.failAt result.2 (.unexpectedAfter (Parser.peek result.2)))) := by
  obtain ⟨enough, h⟩ := agrees_expression hEnd
  refine ⟨enough, fun fuel hFuel => ?_⟩
  rw [whole]
  apply (h fuel hFuel 0 0).bind
  intro e pos _
  rw [peek_bind]
  dsimp only
  split
  · exact agrees_pure e
  · exact agrees_fail _

end

/-- With enough fuel, the parser that counts gives the result of the parser with budgets. -/
theorem parse_eq (text : String) :
    ∃ enough, ∀ fuel ≥ enough, parse text fuel = some (Expr.ofText text) := by
  simp only [parse, Expr.ofText]
  cases hTokens : Token.ofText text with
  | error error => exact ⟨0, fun _ _ => rfl⟩
  | ok tokens =>
    have hEnded := Lexer.ended_of_tokensFrom hTokens
    obtain ⟨enough, h⟩ := agrees_whole (endsInEof_of_ended hEnded)
    refine ⟨enough, fun fuel hFuel => ((h fuel hFuel).erase hEnded).trans (congrArg some ?_)⟩
    change _ = Expr.ofTokens tokens
    rw [Expr.ofTokens]
    change Except.map Prod.fst (Parser.expression Parser.operand Expr.maxDepth tokens >>= _) = _
    cases Parser.expression Parser.operand Expr.maxDepth tokens with
    | error error => rfl
    | ok result =>
      change Except.map Prod.fst (if Parser.peek result.2 = .eof then _ else _) =
        if Parser.peek result.2 = .eof then _ else _
      split <;> rfl

theorem parse_eq_some_iff (text : String) (result : Except SyntaxError Expr) :
    (∃ fuel, parse text fuel = some result) ↔ result = Expr.ofText text := by
  obtain ⟨enough, h⟩ := parse_eq text
  constructor
  · rintro ⟨fuel, hParse⟩
    have hMore := parse_of_le (Nat.le_max_left fuel enough) hParse
    rw [h _ (Nat.le_max_right fuel enough)] at hMore
    exact (Option.some.inj hMore).symm
  · rintro rfl
    exact ⟨enough, h enough (Nat.le_refl _)⟩

end ParamTree.Counting
