import ParamTree.Proofs.ConfigDocuments
import ParamTree.Proofs.MarkerCursor
import ParamTree.Proofs.OptionPrecedence

/-!
# Configurations that can be obtained

A program comes by a configuration as the standard one, from variables, from a document or from the
command line, and goes on from there by its setters. No way leads to an empty token, and wherever an
empty token is given, nothing comes of it. Main statement: `obtainable_advances`, which also says
that the search for markers goes forward in all texts.
-/

namespace ParamTree

namespace Delimiters

def Filled (delimiters : Delimiters) : Prop :=
  delimiters.opening ≠ "" ∧ delimiters.closing ≠ ""

/-- The ways to delimiters of one's own. -/
inductive Obtainable : Delimiters → Prop where
  | ofDialect (dialect : Dialect) : Obtainable dialect.delimiters
  | made {opening closing : String} {delimiters : Delimiters} :
    make opening closing = .ok delimiters → Obtainable delimiters
  | document {text : String} {delimiters : Delimiters} :
    ofDocument? text = some delimiters → Obtainable delimiters

end Delimiters

/-- The ways to a configuration: four sources, and the setters in any order and number. What fails on
the way leads to none, and leaves the one before as it was. -/
inductive Config.Obtainable : Config → Prop where
  | standard : Obtainable standard
  | environment {lookup : String → Option String} {config : Config} :
    ofVariables lookup = .ok config → Obtainable config
  | document {text : String} {config : Config} :
    ofDocument? text = some config → Obtainable config
  | commandLine {environment : String → Option String} {options : CommandLine.Options}
      {config : Config} :
    CommandLine.configure environment options = .ok config → Obtainable config
  | withDialect {config : Config} (dialect : Dialect) :
    Obtainable config → Obtainable (config.withDialect dialect)
  | withDelimiters {config : Config} {delimiters : Delimiters} :
    Obtainable config → delimiters.Obtainable → Obtainable (config.withDelimiters delimiters)
  | withDelimitersOf {config other : Config} :
    Obtainable config → Obtainable other → Obtainable (config.withDelimiters other.delimiters)
  | withPolicy {config : Config} (policy : Policy) :
    Obtainable config → Obtainable (config.withPolicy policy)
  | withTimeout {config : Config} (limit : Duration) :
    Obtainable config → Obtainable (config.withTimeout limit)
  | lenient {config : Config} : Obtainable config → Obtainable config.lenient

/-- A part of a document of named parts: in an object under its name, in a list at its place. -/
inductive Source.Holds (names : List String) (name : String) (value : Source) : Source → Prop where
  | field {fields : List (List StringUnit × Source)} {key : List StringUnit} :
    (key, value) ∈ fields → StringUnit.text? key = some name → name ∈ names →
    Holds names name value (.object fields)
  | item {items : List Source} {place : Nat} :
    items[place]? = some value → names[place]? = some name →
    Holds names name value (.array items)

/-- One of the tokens of a document of delimiters is empty. -/
def Delimiters.GivesEmpty (source : Source) : Prop :=
  ∃ name value, Source.Holds ["open", "close"] name value source ∧ value.text? = some ""

/-- The delimiters of a document of a configuration have an empty token. -/
def Config.GivesEmpty (source : Source) : Prop :=
  ∃ value,
    Source.Holds ["dialect", "delimiters", "policy", "timeout_ms"] "delimiters" value source ∧
    Delimiters.GivesEmpty value

namespace Source

variable {names : List String} {fields : List (List StringUnit × Source)} {known : Entries Source}
  {key : List StringUnit} {name : String} {value : Source}

theorem of_knownFields?_cons (h : knownFields? names ((key, value) :: fields) = some known) :
    ∃ name others, StringUnit.text? key = some name ∧ knownFields? names fields = some others ∧
      ((name ∈ names ∧ name ∉ Entries.keys others ∧ known = (name, value) :: others) ∨
        (name ∉ names ∧ known = others)) := by
  rw [knownFields?] at h
  split at h
  · rename_i name others hKey hOthers
    refine ⟨name, others, hKey, hOthers, ?_⟩
    split at h
    · rename_i hName
      split at h
      · cases h
      · rename_i hNew
        exact .inl ⟨hName, hNew, (Option.some.inj h).symm⟩
    · rename_i hName
      exact .inr ⟨hName, (Option.some.inj h).symm⟩
  · cases h

/-- A known field is found, for no known field stands twice. -/
theorem get?_knownFields? (h : knownFields? names fields = some known)
    (hMem : (key, value) ∈ fields) (hKey : StringUnit.text? key = some name) (hName : name ∈ names) :
    Entries.get? known name = some value := by
  induction fields generalizing known with
  | nil => cases hMem
  | cons field fields ih =>
    obtain ⟨first, others, hFirst, hOthers, hKnown⟩ := of_knownFields?_cons h
    obtain rfl | hLater := List.mem_cons.mp hMem
    · obtain rfl := Option.some.inj (hKey.symm.trans hFirst)
      obtain ⟨-, -, rfl⟩ | ⟨hUnknown, -⟩ := hKnown
      · exact if_pos rfl
      · exact absurd hName hUnknown
    · have hFound := ih hOthers hLater
      obtain ⟨-, hNew, rfl⟩ | ⟨-, rfl⟩ := hKnown
      · have hOther : first ≠ name := by
          rintro rfl
          exact hNew (Entries.mem_keys_iff.mpr ⟨value, hFound⟩)
        rw [Entries.get?, if_neg hOther]
        exact hFound
      · exact hFound

end Source

namespace Delimiters

variable {opening closing : String} {delimiters : Delimiters}

theorem filled_of_make (h : make opening closing = .ok delimiters) : delimiters.Filled := by
  obtain ⟨hTokens, rfl⟩ := make_eq_ok_iff.mp h
  exact hTokens

theorem make_eq_error_iff :
    make opening closing = .error .emptyDelimiter ↔ opening = "" ∨ closing = "" := by
  rw [make]
  split <;> simp [*]

theorem exists_of_ofSources? {opening closing : Source}
    (h : ofSources? opening closing = some delimiters) :
    ∃ openingText closingText, opening.text? = some openingText ∧
      closing.text? = some closingText ∧ make openingText closingText = .ok delimiters := by
  obtain ⟨openingText, hOpening, hRest⟩ := Option.bind_eq_some_iff.mp h
  obtain ⟨closingText, hClosing, hMade⟩ := Option.bind_eq_some_iff.mp hRest
  refine ⟨openingText, closingText, hOpening, hClosing, ?_⟩
  cases hMake : make openingText closingText with
  | error error =>
    rw [hMake] at hMade
    cases hMade
  | ok made =>
    rw [hMake] at hMade
    cases hMade
    rfl

theorem ofSources?_of_empty {opening closing : Source}
    (h : opening.text? = some "" ∨ closing.text? = some "") :
    ofSources? opening closing = none := by
  rw [Option.eq_none_iff_forall_ne_some]
  intro delimiters hDelimiters
  obtain ⟨_, _, hOpening, hClosing, hMake⟩ := exists_of_ofSources? hDelimiters
  obtain ⟨⟨hOpeningText, hClosingText⟩, -⟩ := make_eq_ok_iff.mp hMake
  obtain hEmpty | hEmpty := h
  · exact hOpeningText (Option.some.inj (hOpening.symm.trans hEmpty))
  · exact hClosingText (Option.some.inj (hClosing.symm.trans hEmpty))

/-- Delimiters are read off two parts of their document, which holds no other ones of these names. -/
theorem exists_of_ofSource? {source : Source} (h : ofSource? source = some delimiters) :
    ∃ opening closing, ofSources? opening closing = some delimiters ∧
      ∀ name value, Source.Holds ["open", "close"] name value source →
        value = opening ∨ value = closing := by
  rw [ofSource?.eq_def] at h
  split at h
  · obtain ⟨known, hFields, hKnown⟩ := Option.bind_eq_some_iff.mp h
    obtain ⟨opening, hOpening, hRest⟩ := Option.bind_eq_some_iff.mp hKnown
    obtain ⟨closing, hClosing, hMade⟩ := Option.bind_eq_some_iff.mp hRest
    refine ⟨opening, closing, hMade, ?_⟩
    intro name value hHolds
    cases hHolds with
    | field hMem hKey hName =>
      have hFound := Source.get?_knownFields? hFields hMem hKey hName
      obtain rfl | hName := List.mem_cons.mp hName
      · exact .inl (Option.some.inj (hFound.symm.trans hOpening))
      · obtain rfl := List.mem_singleton.mp hName
        exact .inr (Option.some.inj (hFound.symm.trans hClosing))
  · rename_i opening closing
    refine ⟨opening, closing, h, ?_⟩
    intro name value hHolds
    cases hHolds with
    | item hItem _ => simpa using (List.mem_of_getElem? hItem)
  · cases h

theorem filled_of_ofSource? {source : Source} (h : ofSource? source = some delimiters) :
    delimiters.Filled := by
  obtain ⟨_, _, hMade, -⟩ := exists_of_ofSource? h
  obtain ⟨_, _, -, -, hMake⟩ := exists_of_ofSources? hMade
  exact filled_of_make hMake

theorem ofSource?_of_givesEmpty {source : Source} (h : GivesEmpty source) :
    ofSource? source = none := by
  obtain ⟨name, value, hHolds, hValue⟩ := h
  rw [Option.eq_none_iff_forall_ne_some]
  intro delimiters hDelimiters
  obtain ⟨opening, closing, hMade, hParts⟩ := exists_of_ofSource? hDelimiters
  have hEmpty : opening.text? = some "" ∨ closing.text? = some "" := by
    obtain rfl | rfl := hParts name value hHolds
    · exact .inl hValue
    · exact .inr hValue
  rw [ofSources?_of_empty hEmpty] at hMade
  cases hMade

theorem Obtainable.filled (h : delimiters.Obtainable) : delimiters.Filled := by
  cases h with
  | ofDialect dialect => exact dialect.delimiters_ne
  | made hMake => exact filled_of_make hMake
  | document hDocument =>
    obtain ⟨_, -, hSource⟩ := Option.bind_eq_some_iff.mp hDocument
    exact filled_of_ofSource? hSource

end Delimiters

namespace Config

variable {config : Config}

theorem filled_of_delimiters? {source : Source} {found : Option Delimiters}
    {delimiters : Delimiters} (h : delimiters? source = some found) (hFound : delimiters ∈ found) :
    delimiters.Filled := by
  rw [delimiters?.eq_def] at h
  split at h
  · cases h
    cases hFound
  · obtain ⟨read, hRead, rfl⟩ := Option.map_eq_some_iff.mp h
    cases hFound
    exact Delimiters.filled_of_ofSource? hRead

theorem filled_of_ofParts? {dialect delimiters policy timeout : Option Source}
    (h : ofParts? dialect delimiters policy timeout = some config) : config.delimiters.Filled := by
  obtain ⟨named, -, hDialect⟩ := Option.bind_eq_some_iff.mp h
  obtain ⟨found, hFound, hDelimiters⟩ := Option.bind_eq_some_iff.mp hDialect
  obtain ⟨_, -, hPolicy⟩ := Option.bind_eq_some_iff.mp hDelimiters
  obtain ⟨_, -, hTimeout⟩ := Option.bind_eq_some_iff.mp hPolicy
  cases hTimeout
  cases found with
  | none => exact named.delimiters_ne
  | some given =>
    cases delimiters with
    | none => cases hFound
    | some source => exact filled_of_delimiters? hFound rfl

theorem ofParts?_of_givesEmpty {dialect policy timeout : Option Source} {value : Source}
    (h : Delimiters.GivesEmpty value) : ofParts? dialect (some value) policy timeout = none := by
  have hValue : delimiters? value = none := by
    rw [delimiters?.eq_def]
    split
    · obtain ⟨_, _, hHolds, -⟩ := h
      cases hHolds
    · rw [Delimiters.ofSource?_of_givesEmpty h]
      rfl
  rw [Option.eq_none_iff_forall_ne_some]
  intro config hConfig
  obtain ⟨_, -, hDialect⟩ := Option.bind_eq_some_iff.mp hConfig
  obtain ⟨_, hDelimiters, -⟩ := Option.bind_eq_some_iff.mp hDialect
  cases hValue.symm.trans hDelimiters

/-- A configuration is read off four parts of its document, and it holds no other delimiters. -/
theorem exists_of_ofSource? {source : Source} (h : ofSource? source = some config) :
    ∃ dialect delimiters policy timeout,
      ofParts? dialect delimiters policy timeout = some config ∧
      ∀ value,
        Source.Holds ["dialect", "delimiters", "policy", "timeout_ms"] "delimiters" value source →
        delimiters = some value := by
  rw [ofSource?.eq_def] at h
  split at h
  · obtain ⟨known, hFields, hKnown⟩ := Option.bind_eq_some_iff.mp h
    refine ⟨_, _, _, _, hKnown, ?_⟩
    intro value hHolds
    cases hHolds with
    | field hMem hKey hName => exact Source.get?_knownFields? hFields hMem hKey hName
  · rename_i items
    split at h
    · refine ⟨_, _, _, _, h, ?_⟩
      intro value hHolds
      cases hHolds with
      | item hItem hName =>
        rename_i place
        have hPlace : ["dialect", "delimiters", "policy", "timeout_ms"][1]? =
            ["dialect", "delimiters", "policy", "timeout_ms"][place]? := hName.symm
        obtain rfl := (List.getElem?_inj (by decide) (by decide)).mp hPlace
        exact hItem
    · cases h
  · cases h

theorem filled_of_ofSource? {source : Source} (h : ofSource? source = some config) :
    config.delimiters.Filled := by
  obtain ⟨_, _, _, _, hParts, -⟩ := exists_of_ofSource? h
  exact filled_of_ofParts? hParts

theorem ofSource?_of_givesEmpty {source : Source} (h : GivesEmpty source) :
    ofSource? source = none := by
  obtain ⟨value, hHolds, hEmpty⟩ := h
  rw [Option.eq_none_iff_forall_ne_some]
  intro config hConfig
  obtain ⟨_, _, _, _, hParts, hDelimiters⟩ := exists_of_ofSource? hConfig
  rw [hDelimiters value hHolds, ofParts?_of_givesEmpty hEmpty] at hParts
  cases hParts

theorem filled_of_ofVariables {lookup : String → Option String}
    (h : ofVariables lookup = .ok config) : config.delimiters.Filled := by
  obtain ⟨-, -, -, hMake⟩ := settings_of_ofVariables h
  exact Delimiters.filled_of_make hMake

theorem ofVariables_of_empty {lookup : String → Option String}
    (h : lookup openingVariable = some "" ∨ lookup closingVariable = some "") :
    ∃ error, ofVariables lookup = .error error := by
  cases hVariables : ofVariables lookup with
  | error error => exact ⟨error, rfl⟩
  | ok config =>
    obtain ⟨-, -, -, hMake⟩ := settings_of_ofVariables hVariables
    obtain ⟨⟨hOpening, hClosing⟩, -⟩ := Delimiters.make_eq_ok_iff.mp hMake
    obtain hEmpty | hEmpty := h
    · exact absurd (by rw [hEmpty]; rfl) hOpening
    · exact absurd (by rw [hEmpty]; rfl) hClosing

end Config

namespace CommandLine

variable {environment : String → Option String} {options : Options} {config changed : Config}

theorem Options.filled_redirect (h : config.delimiters.Filled) :
    (options.redirect config).delimiters.Filled := by
  rw [redirect]
  cases options.dialect with
  | none => exact h
  | some dialect => exact dialect.delimiters_ne

/-- The delimiters are made of the tokens of the options, and of those of the configuration that the
variables and the dialect of the options make up. -/
theorem exists_of_configure (h : configure environment options = .ok changed) :
    ∃ config, Config.ofVariables environment = .ok config ∧
      Delimiters.make (options.opening.getD (options.redirect config).delimiters.opening)
        (options.closing.getD (options.redirect config).delimiters.closing) =
          .ok changed.delimiters := by
  rw [configure] at h
  cases hVariables : Config.ofVariables environment with
  | error error =>
    rw [hVariables] at h
    cases h
  | ok config =>
    rw [hVariables] at h
    have hBase : (options.redirect config).delimiters.Filled :=
      Options.filled_redirect (Config.filled_of_ofVariables hVariables)
    obtain ⟨delimiters, hMake, rfl⟩ :=
      Lexer.map_eq_ok ((Options.override_eq hBase.1 hBase.2).symm.trans h)
    exact ⟨config, rfl, hMake⟩

theorem filled_of_configure (h : configure environment options = .ok changed) :
    changed.delimiters.Filled := by
  obtain ⟨_, -, hMake⟩ := exists_of_configure h
  exact Delimiters.filled_of_make hMake

/-- An empty token is refused, whether a variable gives it or an option. -/
theorem configure_of_empty
    (h : environment Config.openingVariable = some "" ∨
      environment Config.closingVariable = some "" ∨
      options.opening = some "" ∨ options.closing = some "") :
    ∃ error, configure environment options = .error error := by
  cases hConfigure : configure environment options with
  | error error => exact ⟨error, rfl⟩
  | ok changed =>
    obtain ⟨config, hVariables, hMake⟩ := exists_of_configure hConfigure
    obtain ⟨⟨hOpening, hClosing⟩, -⟩ := Delimiters.make_eq_ok_iff.mp hMake
    obtain hEmpty | hEmpty | hEmpty | hEmpty := h
    · obtain ⟨_, hError⟩ := Config.ofVariables_of_empty (.inl hEmpty)
      cases hError.symm.trans hVariables
    · obtain ⟨_, hError⟩ := Config.ofVariables_of_empty (.inr hEmpty)
      cases hError.symm.trans hVariables
    · exact absurd (by rw [hEmpty]; rfl) hOpening
    · exact absurd (by rw [hEmpty]; rfl) hClosing

end CommandLine

/-- The standard configuration has both tokens, every source brings both, and every setter keeps
them or brings others. -/
theorem Config.Obtainable.filled {config : Config} (h : config.Obtainable) :
    config.delimiters.Filled := by
  induction h with
  | standard => exact Dialect.expression.delimiters_ne
  | environment hVariables => exact filled_of_ofVariables hVariables
  | document hDocument =>
    obtain ⟨_, -, hSource⟩ := Option.bind_eq_some_iff.mp hDocument
    exact filled_of_ofSource? hSource
  | commandLine hConfigure => exact CommandLine.filled_of_configure hConfigure
  | withDialect dialect => exact dialect.delimiters_ne
  | withDelimiters _ hDelimiters => exact hDelimiters.filled
  | withDelimitersOf _ _ _ ihOther => exact ihOther
  | withPolicy _ _ ih => exact ih
  | withTimeout _ _ ih => exact ih
  | lenient _ ih => exact ih

theorem Delimiters.givesEmpty_of_opening {delimiters : Delimiters} (h : delimiters.opening = "") :
    GivesEmpty delimiters.toJson.spelled := by
  refine ⟨"open", (Json.string "").spelled, ?_, Source.text?_spelled ""⟩
  rw [← h]
  exact .field List.mem_cons_self (StringUnit.text?_ofText _) (by decide)

theorem Config.givesEmpty_of_opening {config : Config} (h : config.delimiters.opening = "") :
    GivesEmpty config.toJson.spelled := by
  refine ⟨config.delimiters.toJson.spelled, ?_, Delimiters.givesEmpty_of_opening h⟩
  exact .field (List.mem_cons_of_mem _ List.mem_cons_self) (StringUnit.text?_ofText _) (by decide)

open Config CommandLine in
/-- No way leads to a configuration with an empty token, so that in every text the search for
markers goes forward at every turn, stands between characters and stays in the text. Where an empty
token is given, no configuration comes of it. -/
theorem Config.obtainable_advances :
    (∀ config : Config, config.Obtainable →
      config.delimiters.opening ≠ "" ∧ config.delimiters.closing ≠ "" ∧
      ∀ text, Cursor.segments config.delimiters text =
          some (Segment.scan config.delimiters text) ∧
        ∀ state, Cursor.Reached config.delimiters text state →
          String.Pos.Raw.IsValid text ⟨state.cursor⟩ ∧ state.cursor ≤ text.utf8ByteSize ∧
          ∃ outcome, state.turn? text.toList config.delimiters.opening.toList
              config.delimiters.closing.toList = some outcome ∧
            ∀ next ∈ outcome, state.cursor < next.cursor) ∧
    (∀ opening closing, opening = "" ∨ closing = "" →
      Delimiters.make opening closing = .error .emptyDelimiter) ∧
    (∀ text source, Source.ofText? text = some source →
      (Delimiters.GivesEmpty source → Delimiters.ofDocument? text = none) ∧
      (Config.GivesEmpty source → ofDocument? text = none)) ∧
    (∀ environment, environment openingVariable = some "" ∨ environment closingVariable = some "" →
      ∃ error, ofVariables environment = .error error) ∧
    (∀ environment (options : Options),
      environment openingVariable = some "" ∨ environment closingVariable = some "" ∨
        options.opening = some "" ∨ options.closing = some "" →
      ∃ error, configure environment options = .error error) := by
  refine ⟨?_, fun _ _ => Delimiters.make_eq_error_iff.mpr, ?_, fun _ => ofVariables_of_empty,
    fun _ _ => configure_of_empty⟩
  · intro config hConfig
    obtain ⟨hOpening, hClosing⟩ := hConfig.filled
    refine ⟨hOpening, hClosing, fun text => ⟨Cursor.segments_eq _ text, ?_⟩⟩
    intro state hState
    obtain ⟨pending, rest, hDivides⟩ := hState.divides hOpening
    have hPlace := Cursor.Boundary.isValid ⟨rest, hDivides.at_cursor⟩
    obtain ⟨outcome, hTurn, hNext⟩ := hDivides.turn? hOpening
    exact ⟨hPlace, hPlace.le_utf8ByteSize, outcome, hTurn, fun next hMem => (hNext next hMem).1⟩
  · intro text source hSource
    rw [Delimiters.ofDocument?, ofDocument?, hSource, Option.bind_some, Option.bind_some]
    exact ⟨Delimiters.ofSource?_of_givesEmpty, ofSource?_of_givesEmpty⟩

/-- Tokens of two bytes, the first of which is not closed in the text, and an empty token on every
way that it is refused on. -/
theorem Config.obtainable_advances_two_bytes :
    let config := (Config.standard.withDialect .pipeline).withDelimiters ⟨"«", "»"⟩
    let refused : Config := ⟨.expression, ⟨"", "\x7d"⟩, .lenient, 5⟩
    let environment : String → Option String := fun name =>
      if name = openingVariable then some "" else none
    let options : CommandLine.Options := { CommandLine.Options.standard with closing := some "" }
    config.Obtainable ∧
    Cursor.Reached config.delimiters "é«(«x»" ⟨[], 0, 4⟩ ∧
    String.Pos.Raw.IsValid "é«(«x»" ⟨4⟩ ∧
    Segment.scan config.delimiters "é«(«x»" = [.literal "é«(", .marker "«x»" "x"] ∧
    Delimiters.make "" "\x7d" = .error .emptyDelimiter ∧
    Delimiters.ofDocument? refused.delimiters.toJson.compact = none ∧
    ofDocument? refused.document = none ∧
    (∃ error, ofVariables environment = .error error) ∧
    ∃ error, CommandLine.configure (fun _ => none) options = .error error := by
  intro config refused environment options
  obtain ⟨hObtained, hMake, hDocuments, hVariables, hConfigure⟩ := obtainable_advances
  have hTokens : (⟨"«", "»"⟩ : Delimiters).Obtainable :=
    .made (Delimiters.make_eq_ok (by decide) (by decide))
  have hConfig : config.Obtainable := .withDelimiters (.withDialect .pipeline .standard) hTokens
  obtain ⟨-, -, hTexts⟩ := hObtained config hConfig
  obtain ⟨hSegments, hStates⟩ := hTexts "é«(«x»"
  have hTurn : Cursor.Sweep.start.turn? "é«(«x»".toList "«".toList "»".toList =
      some (some ⟨[], 0, 4⟩) := by
    rfl
  have hState : Cursor.Reached config.delimiters "é«(«x»" ⟨[], 0, 4⟩ := .turn .start hTurn
  obtain ⟨hPlace, -⟩ := hStates _ hState
  have hScan : Cursor.segments ⟨"«", "»"⟩ "é«(«x»" =
      some [.literal "é«(", .marker "«x»" "x"] := by
    decide
  have hTokensRefused := (hDocuments _ _ (Source.ofText?_compact refused.delimiters.toJson)).1
    (Delimiters.givesEmpty_of_opening rfl)
  have hRefused := (hDocuments _ _ (Source.ofText?_compact refused.toJson)).2
    (givesEmpty_of_opening rfl)
  exact ⟨hConfig, hState, hPlace, Option.some.inj (hSegments.symm.trans hScan),
    hMake _ _ (.inl rfl), hTokensRefused, hRefused, hVariables environment (.inl rfl),
    hConfigure (fun _ => none) options (.inr (.inr (.inr rfl)))⟩

end ParamTree
