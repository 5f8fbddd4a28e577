import ParamTree.Config.Basic
import ParamTree.Json.Printer
import ParamTree.Json.Reader

/-!
# Configuration documents

A configuration as JSON: an object with the fields `dialect`, `delimiters`, `policy` and
`timeout_ms`, or a list of their values in this order. Fields may be missing, other fields are left
aside, and no known field may occur twice. Delimiters are an object or a list of both tokens.
-/

namespace ParamTree

/-- The known fields among the given ones, or `none` where one of them occurs twice or a key is no
text. -/
def Source.knownFields? (names : List String) :
    List (List StringUnit × Source) → Option (Entries Source)
  | [] => some []
  | (key, value) :: rest =>
    match StringUnit.text? key, knownFields? names rest with
    | some name, some fields =>
      if name ∈ names then
        if name ∈ Entries.keys fields then none else some ((name, value) :: fields)
      else
        some fields
    | _, _ => none

def Source.text? : Source → Option String
  | .string units => StringUnit.text? units
  | _ => none

/-- The name of a choice, alone or as the only key of an object, with nothing to it. -/
def Source.choice? : Source → Option String
  | .string units => StringUnit.text? units
  | .object [(key, .null)] => StringUnit.text? key
  | _ => none

def Source.unsigned? : Source → Option UInt64
  | .number numeral => (numeral.toNumber?.bind Number.unsigned?).map UInt64.ofNat
  | _ => none

namespace Delimiters

def ofSources? (opening closing : Source) : Option Delimiters := do
  let opening ← opening.text?
  let closing ← closing.text?
  (make opening closing).toOption

def ofSource? : Source → Option Delimiters
  | .object fields => do
    let known ← Source.knownFields? ["open", "close"] fields
    ofSources? (← Entries.get? known "open") (← Entries.get? known "close")
  | .array [opening, closing] => ofSources? opening closing
  | _ => none

def ofDocument? (text : String) : Option Delimiters :=
  (Source.ofText? text).bind ofSource?

def toJson (delimiters : Delimiters) : Json :=
  .object [("open", .string delimiters.opening), ("close", .string delimiters.closing)]

end Delimiters

namespace Config

def part? {α : Type} (source : Option Source) (default : α) (read : Source → Option α) :
    Option α :=
  match source with
  | some source => read source
  | none => some default

/-- Delimiters that are left to the dialect are `null` or missing. -/
def delimiters? : Source → Option (Option Delimiters)
  | .null => some none
  | source => (Delimiters.ofSource? source).map some

def ofParts? (dialect delimiters policy timeout : Option Source) : Option Config := do
  let dialect ← part? dialect Dialect.expression (fun source => source.choice?.bind Dialect.ofName?)
  let delimiters ← part? delimiters none delimiters?
  let policy ← part? policy Policy.strict (fun source => source.choice?.bind Policy.ofName?)
  let timeoutMs ← part? timeout defaultTimeoutMs Source.unsigned?
  return ⟨dialect, delimiters.getD dialect.delimiters, policy, timeoutMs⟩

def ofSource? : Source → Option Config
  | .object fields => do
    let known ← Source.knownFields? ["dialect", "delimiters", "policy", "timeout_ms"] fields
    ofParts? (Entries.get? known "dialect") (Entries.get? known "delimiters")
      (Entries.get? known "policy") (Entries.get? known "timeout_ms")
  | .array items =>
    if items.length ≤ 4 then ofParts? items[0]? items[1]? items[2]? items[3]? else none
  | _ => none

def ofDocument? (text : String) : Option Config :=
  (Source.ofText? text).bind ofSource?

def toJson (config : Config) : Json :=
  .object [("dialect", .string config.dialect.name),
    ("delimiters", config.delimiters.toJson),
    ("policy", .string config.policy.name),
    ("timeout_ms", .ofNat config.timeoutMs.toNat)]

def document (config : Config) : String :=
  config.toJson.compact

end Config

end ParamTree
