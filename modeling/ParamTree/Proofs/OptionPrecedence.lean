import ParamTree.CommandLine.Options

/-!
# Options over variables

What is given as an option replaces the variable of that setting, and all else is taken from the
environment, but for the delimiters: another dialect comes with its own, whatever the variables say.
Main statement: `configure_eq_ofVariables_iff`.
-/

namespace ParamTree

theorem Option.getD_or_getD {α : Type} (first second : Option α) (default : α) :
    (first.or second).getD default = first.getD (second.getD default) := by
  cases first <;> rfl

theorem Option.getD_eq_getD_getD_iff {α : Type} {first second : Option α} {default : α} :
    first.getD default = first.getD (second.getD default) ↔
      (first = none → ∀ value ∈ second, value = default) := by
  cases first <;> cases second <;> simp [eq_comm]

theorem Option.getD_eq_iff_of_ne {α : Type} {first : Option α} {default value : α}
    (h : default ≠ value) : first.getD default = value ↔ first = some value := by
  cases first <;> simp [h]

theorem Except.map_inj {ε α β : Type} {f : α → β} (hf : Function.Injective f)
    {first second : Except ε α} : first.map f = second.map f ↔ first = second := by
  cases first <;> cases second <;> simp [Except.map, hf.eq_iff]

namespace Text

theorem not_isBlank_of_isDigit {c : Char} (h : c.isDigit = true) : isBlank c = false := by
  have hCode : 48 ≤ c.toNat ∧ c.toNat ≤ 57 := by
    simpa [Char.isDigit, Char.le_def, UInt32.le_iff_toNat_le] using h
  rw [Bool.eq_false_iff, isBlank, ne_eq, inRanges_iff]
  simp only [blankRanges, List.mem_cons, List.not_mem_nil, or_false, exists_eq_or_imp,
    exists_eq_left]
  omega

theorem trimBlanks_of_not_isBlank {text : List Char} (h : ∀ c ∈ text, isBlank c = false) :
    trimBlanks text = text := by
  have hKept : ∀ characters : List Char, (∀ c ∈ characters, isBlank c = false) →
      characters.dropWhile isBlank = characters := by
    intro characters hAll
    cases characters with
    | nil => rfl
    | cons c rest =>
      have hFirst := hAll c List.mem_cons_self
      exact List.dropWhile_cons_of_neg (by simp [hFirst])
  rw [trimBlanks, trimStart, hKept text h, trimEnd, hKept, List.reverse_reverse]
  intro c hc
  exact h c (List.mem_reverse.mp hc)

end Text

namespace Delimiters

/-- Delimiters are made alike of two pairs if the pairs are the same or hold an empty text each. -/
theorem make_eq_make_iff {opening closing o c : String} :
    make opening closing = make o c ↔
      (opening = o ∧ closing = c) ∨ ((opening = "" ∨ closing = "") ∧ (o = "" ∨ c = "")) := by
  rw [make, make]
  split
  · rename_i hEmpty
    split
    · rename_i hEmpty'
      simp [hEmpty, hEmpty']
    · rename_i hFull
      refine iff_of_false (by simp) ?_
      rintro (⟨rfl, rfl⟩ | ⟨-, hEmpty'⟩)
      · exact hFull hEmpty
      · exact hFull hEmpty'
  · rename_i hFull
    split
    · rename_i hEmpty
      refine iff_of_false (by simp) ?_
      rintro (⟨rfl, rfl⟩ | ⟨hEmpty', -⟩)
      · exact hFull hEmpty
      · exact hFull hEmpty'
    · simp [hFull]

end Delimiters

theorem Dialect.delimiters_ne (dialect : Dialect) :
    dialect.delimiters.opening ≠ "" ∧ dialect.delimiters.closing ≠ "" := by
  cases dialect <;> decide

theorem Dialect.ofText_name (dialect : Dialect) : ofText dialect.name = .ok dialect := by
  have hName : ofName? (normalized dialect.name) = some dialect := by
    cases dialect <;> decide
  rw [ofText, hName]

theorem Policy.ofText_name (policy : Policy) : ofText policy.name = .ok policy := by
  have hName : ofName? (normalized policy.name) = some policy := by
    cases policy <;> decide
  rw [ofText, hName]

namespace Config

/-- What variables of a configuration are read as. -/
theorem ofVariables_eq {lookup : String → Option String} {dialect : Dialect} {policy : Policy}
    {timeoutMs : UInt64}
    (hDialect : setting (lookup dialectVariable) Dialect.expression Dialect.ofText = .ok dialect)
    (hPolicy : setting (lookup policyVariable) Policy.strict Policy.ofText = .ok policy)
    (hTimeout : setting (lookup timeoutVariable) defaultTimeoutMs timeoutOfText = .ok timeoutMs) :
    ofVariables lookup =
      (Delimiters.make ((lookup openingVariable).getD dialect.delimiters.opening)
        ((lookup closingVariable).getD dialect.delimiters.closing)).map
        fun delimiters => ⟨dialect, delimiters, policy, timeoutMs⟩ := by
  rw [ofVariables, hDialect, hPolicy, hTimeout]
  rfl

/-- All variables of an environment that yields a configuration make sense. -/
theorem settings_of_ofVariables {lookup : String → Option String} {config : Config}
    (h : ofVariables lookup = .ok config) :
    setting (lookup dialectVariable) Dialect.expression Dialect.ofText = .ok config.dialect ∧
    setting (lookup policyVariable) Policy.strict Policy.ofText = .ok config.policy ∧
    setting (lookup timeoutVariable) defaultTimeoutMs timeoutOfText = .ok config.timeoutMs ∧
    Delimiters.make ((lookup openingVariable).getD config.dialect.delimiters.opening)
      ((lookup closingVariable).getD config.dialect.delimiters.closing) =
        .ok config.delimiters := by
  cases hDialect : setting (lookup dialectVariable) Dialect.expression Dialect.ofText with
  | error =>
    rw [ofVariables, hDialect] at h
    cases h
  | ok dialect =>
    cases hPolicy : setting (lookup policyVariable) Policy.strict Policy.ofText with
    | error =>
      rw [ofVariables, hDialect, hPolicy] at h
      cases h
    | ok policy =>
      cases hTimeout : setting (lookup timeoutVariable) defaultTimeoutMs timeoutOfText with
      | error =>
        rw [ofVariables, hDialect, hPolicy, hTimeout] at h
        cases h
      | ok timeoutMs =>
        rw [ofVariables_eq hDialect hPolicy hTimeout] at h
        cases hMake : Delimiters.make ((lookup openingVariable).getD dialect.delimiters.opening)
            ((lookup closingVariable).getD dialect.delimiters.closing) with
        | error =>
          rw [hMake] at h
          cases h
        | ok delimiters =>
          rw [hMake] at h
          cases h
          exact ⟨rfl, rfl, rfl, hMake⟩

theorem withTimeout_ofMilliseconds (config : Config) (ms : UInt64) :
    config.withTimeout (.ofMilliseconds ms.toNat) = { config with timeoutMs := ms } := by
  have hBound : ms.toNat < UInt64.size := ms.toNat_lt_size
  have hMin : min ms.toNat (UInt64.size - 1) = ms.toNat := by omega
  rw [withTimeout, Duration.milliseconds_ofMilliseconds, hMin, UInt64.ofNat_toNat]

end Config

namespace Config

/-- A count of milliseconds is read back from its digits. -/
theorem timeoutOfText_toDigits (ms : UInt64) :
    timeoutOfText (String.ofList (Nat.toDigits 10 ms.toNat)) = .ok ms := by
  have hDigits : ∀ c ∈ Nat.toDigits 10 ms.toNat, c.isDigit = true := fun _ hc =>
    Nat.isDigit_of_mem_toDigits (by decide) (by decide) hc
  have hTrimmed : Text.trimBlanks (Nat.toDigits 10 ms.toNat) = Nat.toDigits 10 ms.toNat :=
    Text.trimBlanks_of_not_isBlank fun c hc => Text.not_isBlank_of_isDigit (hDigits c hc)
  have hRead : unsigned? (Nat.toDigits 10 ms.toNat) = some ms := by
    have hSign : ∀ rest, Nat.toDigits 10 ms.toNat ≠ '+' :: rest := by
      intro rest hChars
      have hPlus := hDigits '+' (hChars ▸ List.mem_cons_self)
      cases hPlus
    rw [unsigned?, if_pos, Nat.ofDigitChars_ten_toDigits, UInt64.ofNat_toNat]
    · rw [Nat.ofDigitChars_ten_toDigits]
      exact ⟨Nat.toDigits_ne_nil, List.all_eq_true.mpr hDigits, ms.toNat_lt_size⟩
    · exact hSign
  rw [timeoutOfText, String.toList_ofList, hTrimmed, hRead]

end Config

namespace CommandLine.Options

open Config

/-- The text that a variable has if its setting is given as an option. -/
def assigned? (options : Options) (name : String) : Option String :=
  if name = dialectVariable then options.dialect.map Dialect.name
  else if name = openingVariable then options.opening
  else if name = closingVariable then options.closing
  else if name = policyVariable then
    if options.lenient then some Policy.lenient.name else none
  else if name = timeoutVariable then
    options.timeoutMs.map fun ms => String.ofList (Nat.toDigits 10 ms.toNat)
  else none

/-- The environment in which the variables of the given options are overwritten. -/
def overwrite (options : Options) (environment : String → Option String) : String → Option String :=
  fun name => (options.assigned? name).or (environment name)

variable {options : Options} {environment : String → Option String} {config : Config}

theorem assigned?_dialect :
    options.assigned? dialectVariable = options.dialect.map Dialect.name := by
  rw [assigned?, if_pos rfl]

theorem assigned?_opening : options.assigned? openingVariable = options.opening := by
  rw [assigned?, if_neg (by decide), if_pos rfl]

theorem assigned?_closing : options.assigned? closingVariable = options.closing := by
  rw [assigned?, if_neg (by decide), if_neg (by decide), if_pos rfl]

theorem assigned?_policy : options.assigned? policyVariable =
    if options.lenient then some Policy.lenient.name else none := by
  rw [assigned?, if_neg (by decide), if_neg (by decide), if_neg (by decide), if_pos rfl]

theorem assigned?_timeout : options.assigned? timeoutVariable =
    options.timeoutMs.map fun ms => String.ofList (Nat.toDigits 10 ms.toNat) := by
  rw [assigned?, if_neg (by decide), if_neg (by decide), if_neg (by decide), if_neg (by decide),
    if_pos rfl]

/-- The configuration under the dialect of the options, which comes with its delimiters. -/
def redirect (options : Options) (config : Config) : Config :=
  match options.dialect with
  | some dialect => config.withDialect dialect
  | none => config

/-- The configuration with these delimiters, and with the policy and the time of the options. -/
def settle (options : Options) (config : Config) (delimiters : Delimiters) : Config where
  dialect := config.dialect
  delimiters := delimiters
  policy := if options.lenient then .lenient else config.policy
  timeoutMs := options.timeoutMs.getD config.timeoutMs

theorem dialect_redirect :
    (options.redirect config).dialect = options.dialect.getD config.dialect := by
  rw [redirect]
  cases options.dialect <;> rfl

theorem settle_redirect (delimiters : Delimiters) :
    options.settle (options.redirect config) delimiters =
      ⟨options.dialect.getD config.dialect, delimiters,
        if options.lenient then .lenient else config.policy,
        options.timeoutMs.getD config.timeoutMs⟩ := by
  rw [settle, redirect]
  cases options.dialect <;> rfl

theorem ofVariables_overwrite (h : Config.ofVariables environment = .ok config) :
    Config.ofVariables (options.overwrite environment) =
      (Delimiters.make
        (options.opening.getD ((environment openingVariable).getD
          (options.redirect config).dialect.delimiters.opening))
        (options.closing.getD ((environment closingVariable).getD
          (options.redirect config).dialect.delimiters.closing))).map
        (options.settle (options.redirect config)) := by
  obtain ⟨hDialect, hPolicy, hTimeout, -⟩ := settings_of_ofVariables h
  have hNewDialect : setting (options.overwrite environment dialectVariable) Dialect.expression
      Dialect.ofText = .ok (options.dialect.getD config.dialect) := by
    rw [overwrite, assigned?_dialect]
    cases options.dialect with
    | none => exact hDialect
    | some dialect => exact Dialect.ofText_name dialect
  have hNewPolicy : setting (options.overwrite environment policyVariable) Policy.strict
      Policy.ofText = .ok (if options.lenient then .lenient else config.policy) := by
    rw [overwrite, assigned?_policy]
    cases options.lenient with
    | false => exact hPolicy
    | true => exact Policy.ofText_name .lenient
  have hNewTimeout : setting (options.overwrite environment timeoutVariable) defaultTimeoutMs
      timeoutOfText = .ok (options.timeoutMs.getD config.timeoutMs) := by
    rw [overwrite, assigned?_timeout]
    cases options.timeoutMs with
    | none => exact hTimeout
    | some ms => exact timeoutOfText_toDigits ms
  rw [ofVariables_eq hNewDialect hNewPolicy hNewTimeout, overwrite, assigned?_opening, overwrite,
    assigned?_closing, Option.getD_or_getD, Option.getD_or_getD, dialect_redirect,
    funext settle_redirect]

theorem override_redirect :
    options.override config =
      { options with dialect := none }.override (options.redirect config) := by
  rw [override, redirect]
  cases options.dialect <;> rfl

theorem override_eq (hOpening : (options.redirect config).delimiters.opening ≠ "")
    (hClosing : (options.redirect config).delimiters.closing ≠ "") :
    options.override config =
      (Delimiters.make (options.opening.getD (options.redirect config).delimiters.opening)
        (options.closing.getD (options.redirect config).delimiters.closing)).map
        (options.settle (options.redirect config)) := by
  rw [override_redirect]
  generalize options.redirect config = base at hOpening hClosing ⊢
  rw [override]
  by_cases hGiven : options.opening.isSome || options.closing.isSome
  · simp only [if_pos hGiven]
    cases Delimiters.make (options.opening.getD base.delimiters.opening)
        (options.closing.getD base.delimiters.closing) with
    | error => rfl
    | ok delimiters =>
      apply congrArg Except.ok
      rw [settle]
      cases options.timeoutMs <;> cases options.lenient <;>
        simp [withTimeout_ofMilliseconds, Config.lenient, withPolicy, withDelimiters]
  · simp only [if_neg hGiven]
    obtain ⟨hNoOpening, hNoClosing⟩ : options.opening = none ∧ options.closing = none := by
      simpa using hGiven
    rw [hNoOpening, hNoClosing, Option.getD_none, Option.getD_none,
      Delimiters.make_eq_ok hOpening hClosing]
    apply congrArg Except.ok
    rw [settle]
    cases options.timeoutMs <;> cases options.lenient <;>
      simp [withTimeout_ofMilliseconds, Config.lenient, withPolicy]

/-- No other dialect is given, or the variables of the delimiters that are not given say the same as
that dialect does, or an empty delimiter is given, which is refused in any case. -/
def KeepsDelimiters (options : Options) (environment : String → Option String) : Prop :=
  ∀ dialect ∈ options.dialect, options.opening = some "" ∨ options.closing = some "" ∨
    ((options.opening = none →
      ∀ token ∈ environment openingVariable, token = dialect.delimiters.opening) ∧
    (options.closing = none →
      ∀ token ∈ environment closingVariable, token = dialect.delimiters.closing))

theorem settle_injective : Function.Injective (options.settle config) := by
  intro delimiters others h
  exact congrArg Config.delimiters h

/-- The delimiters of another dialect agree with the variables exactly if they keep them. -/
theorem make_eq_make_iff_keepsDelimiters (hOpening : environment openingVariable ≠ some "")
    (hClosing : environment closingVariable ≠ some "") {dialect : Dialect}
    (hDialect : options.dialect = some dialect) :
    Delimiters.make (options.opening.getD dialect.delimiters.opening)
        (options.closing.getD dialect.delimiters.closing) =
      Delimiters.make
        (options.opening.getD
          ((environment openingVariable).getD dialect.delimiters.opening))
        (options.closing.getD
          ((environment closingVariable).getD dialect.delimiters.closing)) ↔
      options.KeepsDelimiters environment := by
  obtain ⟨hOpen, hClose⟩ := dialect.delimiters_ne
  have hOpenRead : (environment openingVariable).getD dialect.delimiters.opening ≠ "" := by
    rwa [ne_eq, Option.getD_eq_iff_of_ne hOpen]
  have hCloseRead : (environment closingVariable).getD dialect.delimiters.closing ≠ "" := by
    rwa [ne_eq, Option.getD_eq_iff_of_ne hClose]
  rw [Delimiters.make_eq_make_iff, Option.getD_eq_getD_getD_iff, Option.getD_eq_getD_getD_iff,
    Option.getD_eq_iff_of_ne hOpen, Option.getD_eq_iff_of_ne hClose,
    Option.getD_eq_iff_of_ne hOpenRead, Option.getD_eq_iff_of_ne hCloseRead, and_self, or_comm,
    or_assoc]
  simp [KeepsDelimiters, hDialect]

end CommandLine.Options

open CommandLine Config

/-- Where the environment makes sense, options amount to other values of their variables if and only
if they keep the delimiters. -/
theorem CommandLine.configure_eq_ofVariables_iff {environment : String → Option String}
    {config : Config} (h : ofVariables environment = .ok config) (options : Options) :
    configure environment options = ofVariables (options.overwrite environment) ↔
      options.KeepsDelimiters environment := by
  obtain ⟨-, -, -, hMake⟩ := settings_of_ofVariables h
  obtain ⟨⟨hOpening, hClosing⟩, hDelimiters⟩ := Delimiters.make_eq_ok_iff.mp hMake
  have hConfigure : configure environment options = options.override config := by
    rw [configure, h]
    rfl
  rw [hConfigure, Options.ofVariables_overwrite h]
  cases hDialect : options.dialect with
  | none =>
    have hBase : options.redirect config = config := by
      rw [Options.redirect, hDialect]
    have hKeeps : options.KeepsDelimiters environment := by
      intro dialect hGiven
      rw [hDialect] at hGiven
      cases hGiven
    refine iff_of_true ?_ hKeeps
    rw [Options.override_eq (by rwa [hBase, hDelimiters]) (by rwa [hBase, hDelimiters]), hBase,
      hDelimiters]
  | some dialect =>
    have hBase : options.redirect config = config.withDialect dialect := by
      rw [Options.redirect, hDialect]
    obtain ⟨hOpen, hClose⟩ := dialect.delimiters_ne
    have hOpeningVariable : environment openingVariable ≠ some "" := by
      intro hEmpty
      rw [hEmpty] at hOpening
      exact hOpening rfl
    have hClosingVariable : environment closingVariable ≠ some "" := by
      intro hEmpty
      rw [hEmpty] at hClosing
      exact hClosing rfl
    rw [Options.override_eq (by rwa [hBase]) (by rwa [hBase]), hBase,
      ← Options.make_eq_make_iff_keepsDelimiters hOpeningVariable hClosingVariable hDialect]
    exact Except.map_inj Options.settle_injective

/-- An opening token that the variable and the new dialect have in common. -/
theorem CommandLine.configure_eq_ofVariables_shared_opening :
    let environment : String → Option String := fun name =>
      if name = openingVariable then some "\x7b\x7b"
      else if name = closingVariable then some "%>"
      else if name = policyVariable then some " Lenient"
      else none
    let options : Options :=
      { Options.standard with
        dialect := some .pipeline
        closing := some "%\x7d"
        timeoutMs := some 7 }
    ofVariables environment = .ok ⟨.expression, ⟨"\x7b\x7b", "%>"⟩, .lenient, 500⟩ ∧
    options.KeepsDelimiters environment ∧
    configure environment options = ofVariables (options.overwrite environment) ∧
    configure environment options = .ok ⟨.pipeline, ⟨"\x7b\x7b", "%\x7d"⟩, .lenient, 7⟩ := by
  intro environment options
  have hVariables : ofVariables environment =
      .ok ⟨.expression, ⟨"\x7b\x7b", "%>"⟩, .lenient, 500⟩ := by
    rfl
  have hKeeps : options.KeepsDelimiters environment := by
    rintro _ ⟨rfl⟩
    refine .inr (.inr ⟨?_, nofun⟩)
    rintro - _ ⟨rfl⟩
    rfl
  refine ⟨hVariables, hKeeps, (configure_eq_ofVariables_iff hVariables options).mpr hKeeps, ?_⟩
  rfl

/-- Another dialect drops the delimiters of the environment, although no option says anything about
them. -/
theorem CommandLine.configure_drops_delimiters :
    let environment : String → Option String := fun name =>
      if name = openingVariable then some "<%"
      else if name = closingVariable then some "%>"
      else none
    let options : Options := { Options.standard with dialect := some .pipeline }
    ofVariables environment = .ok ⟨.expression, ⟨"<%", "%>"⟩, .strict, 500⟩ ∧
    configure environment options = .ok ⟨.pipeline, ⟨"\x7b\x7b", "\x7d\x7d"⟩, .strict, 500⟩ ∧
    ofVariables (options.overwrite environment) = .ok ⟨.pipeline, ⟨"<%", "%>"⟩, .strict, 500⟩ ∧
    ¬options.KeepsDelimiters environment := by
  intro environment options
  refine ⟨rfl, rfl, rfl, ?_⟩
  intro hKeeps
  obtain hEmpty | hEmpty | ⟨hSame, -⟩ := hKeeps .pipeline rfl
  · cases hEmpty
  · cases hEmpty
  · exact absurd (hSame rfl "<%" rfl) (by decide)

end ParamTree
