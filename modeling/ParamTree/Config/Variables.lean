import ParamTree.Config.Basic

/-!
# Configuration from variables

Every setting has a variable of the environment. A variable that is not set leaves the default, and
one with a value that makes no sense is an error.
-/

namespace ParamTree.Config

def dialectVariable : String := "JSONPARAM_DIALECT"

def openingVariable : String := "JSONPARAM_OPEN"

def closingVariable : String := "JSONPARAM_CLOSE"

def policyVariable : String := "JSONPARAM_POLICY"

def timeoutVariable : String := "JSONPARAM_TIMEOUT_MS"

/-- A numeral of at most 64 bits, which a plus sign may precede. -/
def unsigned? (text : List Char) : Option UInt64 :=
  let digits := match text with
    | '+' :: rest => rest
    | text => text
  if digits ≠ [] ∧ digits.all Char.isDigit ∧ Nat.ofDigitChars 10 digits 0 < UInt64.size then
    some (UInt64.ofNat (Nat.ofDigitChars 10 digits 0))
  else
    none

def timeoutOfText (text : String) : Except ConfigError UInt64 :=
  match unsigned? (Text.trimBlanks text.toList) with
  | some ms => .ok ms
  | none => .error (.invalidValue .timeout text)

def setting {α : Type} (value : Option String) (default : α)
    (read : String → Except ConfigError α) : Except ConfigError α :=
  match value with
  | some text => read text
  | none => .ok default

def ofVariables (lookup : String → Option String) : Except ConfigError Config := do
  let dialect ← setting (lookup dialectVariable) Dialect.expression Dialect.ofText
  let policy ← setting (lookup policyVariable) Policy.strict Policy.ofText
  let timeoutMs ← setting (lookup timeoutVariable) defaultTimeoutMs timeoutOfText
  let opening := (lookup openingVariable).getD dialect.delimiters.opening
  let closing := (lookup closingVariable).getD dialect.delimiters.closing
  let delimiters ← Delimiters.make opening closing
  return ⟨dialect, delimiters, policy, timeoutMs⟩

end ParamTree.Config
