import ParamTree.Plan
import ParamTree.Text.Basic

/-!
# Configuration

The settings of a document: how markers are read, which tokens enclose them, what happens to what
cannot be resolved, and how long one expression may take.
-/

namespace ParamTree

inductive Setting where
  | dialect
  | policy
  | timeout
deriving DecidableEq

def Setting.name : Setting → String
  | dialect => "dialect"
  | policy => "policy"
  | timeout => "JSONPARAM_TIMEOUT_MS"

def Setting.expected : Setting → String
  | dialect => "`expression` or `pipeline`"
  | policy => "`strict` or `lenient`"
  | timeout => "a number of milliseconds"

inductive ConfigError where
  | invalidValue (setting : Setting) (value : String)
  | emptyDelimiter
deriving DecidableEq

def ConfigError.message : ConfigError → String
  | invalidValue setting value =>
    s!"invalid value `{value}` for {setting.name}: expected {setting.expected}"
  | emptyDelimiter => "delimiter tokens must not be empty"

/-- What a marker holds: an expression, or a name with the filters that its value goes through. -/
inductive Dialect where
  | expression
  | pipeline
deriving DecidableEq

/-- Whether the first failure ends everything, or whatever fails keeps its text. -/
inductive Policy where
  | strict
  | lenient
deriving DecidableEq

structure Delimiters where
  opening : String
  closing : String
deriving DecidableEq

def Delimiters.make (opening closing : String) : Except ConfigError Delimiters :=
  if opening = "" ∨ closing = "" then .error .emptyDelimiter else .ok ⟨opening, closing⟩

namespace Delimiters

theorem make_eq_ok {opening closing : String} (hOpening : opening ≠ "") (hClosing : closing ≠ "") :
    make opening closing = .ok ⟨opening, closing⟩ :=
  if_neg (by simp [hOpening, hClosing])

theorem make_eq_ok_iff {opening closing : String} {delimiters : Delimiters} :
    make opening closing = .ok delimiters ↔
      (opening ≠ "" ∧ closing ≠ "") ∧ delimiters = ⟨opening, closing⟩ := by
  rw [make]
  split
  · rename_i hEmpty
    constructor
    · intro h
      cases h
    · rintro ⟨⟨hOpening, hClosing⟩, -⟩
      exact (hEmpty.elim hOpening hClosing).elim
  · rename_i hFull
    rw [not_or] at hFull
    simp [hFull, eq_comm]

end Delimiters

namespace Dialect

def name : Dialect → String
  | expression => "expression"
  | pipeline => "pipeline"

def delimiters : Dialect → Delimiters
  | expression => ⟨"$\x7b", "\x7d"⟩
  | pipeline => ⟨"\x7b\x7b", "\x7d\x7d"⟩

def ofName? (text : String) : Option Dialect :=
  if text = expression.name then some expression
  else if text = pipeline.name then some pipeline
  else none

end Dialect

namespace Policy

def name : Policy → String
  | strict => "strict"
  | lenient => "lenient"

def ofName? (text : String) : Option Policy :=
  if text = strict.name then some strict
  else if text = lenient.name then some lenient
  else none

end Policy

/-- Text as an option is compared: without blanks around it and in lower case, as far as ASCII has
one. -/
def normalized (text : String) : String :=
  String.ofList ((Text.trimBlanks text.toList).map Char.toLower)

def Dialect.ofText (text : String) : Except ConfigError Dialect :=
  match ofName? (normalized text) with
  | some dialect => .ok dialect
  | none => .error (.invalidValue .dialect text)

def Policy.ofText (text : String) : Except ConfigError Policy :=
  match ofName? (normalized text) with
  | some policy => .ok policy
  | none => .error (.invalidValue .policy text)

structure Config where
  dialect : Dialect
  delimiters : Delimiters
  policy : Policy
  timeoutMs : UInt64
deriving DecidableEq

namespace Config

def defaultTimeoutMs : UInt64 := 500

def standard : Config :=
  ⟨.expression, Dialect.expression.delimiters, .strict, defaultTimeoutMs⟩

/-- Another dialect comes with its own delimiters. -/
def withDialect (config : Config) (dialect : Dialect) : Config :=
  { config with dialect := dialect, delimiters := dialect.delimiters }

def withDelimiters (config : Config) (delimiters : Delimiters) : Config :=
  { config with delimiters := delimiters }

def withPolicy (config : Config) (policy : Policy) : Config :=
  { config with policy := policy }

/-- The limit in whole milliseconds, cut off at what 64 bits hold. -/
def withTimeout (config : Config) (limit : Duration) : Config :=
  { config with timeoutMs := UInt64.ofNat (min limit.milliseconds (UInt64.size - 1)) }

def lenient (config : Config) : Config :=
  config.withPolicy .lenient

def timeout (config : Config) : Duration :=
  .ofMilliseconds config.timeoutMs.toNat

def isLenient (config : Config) : Bool :=
  config.policy = .lenient

end Config

end ParamTree
