import ParamTree.Document

/-!
# Options of the command line

The options of a rendering, read from the arguments in their order. What is given twice counts as it
is given last.
-/

namespace ParamTree.CommandLine

structure Options where
  template : Option String
  params : Option String
  dialect : Option Dialect
  opening : Option String
  closing : Option String
  lenient : Bool
  timeoutMs : Option UInt64
  format : OutputFormat

namespace Options

def standard : Options :=
  ⟨none, none, none, none, none, false, none, .pretty⟩

def switch? (flag : String) : Option (Options → Options) :=
  if flag = "--lenient" then some fun options => { options with lenient := true }
  else if flag = "--compact" then some fun options => { options with format := .compact }
  else if flag = "--canonical" then some fun options => { options with format := .canonical }
  else none

def withDialect (options : Options) (value : String) : Except String Options :=
  match Dialect.ofText value with
  | .ok dialect => .ok { options with dialect := some dialect }
  | .error error => .error error.message

def withTimeout (options : Options) (value : String) : Except String Options :=
  match Config.unsigned? value.toList with
  | some ms => .ok { options with timeoutMs := some ms }
  | none => .error s!"--timeout-ms inválido: {value}"

def withFormat (options : Options) (value : String) : Except String Options :=
  match OutputFormat.ofText value with
  | .ok format => .ok { options with format := format }
  | .error error => .error error.message

def valued? (flag : String) : Option (Options → String → Except String Options) :=
  if flag = "--template" then some fun options v => .ok { options with template := some v }
  else if flag = "--params" then some fun options v => .ok { options with params := some v }
  else if flag = "--open" then some fun options v => .ok { options with opening := some v }
  else if flag = "--close" then some fun options v => .ok { options with closing := some v }
  else if flag = "--dialect" then some withDialect
  else if flag = "--timeout-ms" then some withTimeout
  else if flag = "--format" then some withFormat
  else none

def parse (options : Options) : List String → Except String Options
  | [] => .ok options
  | flag :: rest =>
    match switch? flag, valued? flag with
    | some update, _ => parse (update options) rest
    | none, none => .error s!"opción desconocida: {flag}"
    | none, some update =>
      match rest with
      | [] => .error s!"falta el valor de {flag}"
      | value :: rest =>
        match update options value with
        | .error detail => .error detail
        | .ok options => parse options rest

/-- Options override what the configuration says; another dialect comes with its own delimiters. -/
def override (options : Options) (config : Config) : Except ConfigError Config := do
  let config := match options.dialect with
    | some dialect => config.withDialect dialect
    | none => config
  let config ←
    if options.opening.isSome || options.closing.isSome then do
      let delimiters ← Delimiters.make (options.opening.getD config.delimiters.opening)
        (options.closing.getD config.delimiters.closing)
      pure (config.withDelimiters delimiters)
    else
      pure config
  let config := if options.lenient then config.lenient else config
  return match options.timeoutMs with
    | some ms => config.withTimeout (.ofMilliseconds ms.toNat)
    | none => config

end Options

def configure (environment : String → Option String) (options : Options) :
    Except ConfigError Config := do
  let config ← Config.ofVariables environment
  options.override config

end ParamTree.CommandLine
