import ParamTree.Config.Variables
import ParamTree.Json.Canonical
import ParamTree.Json.Reader
import ParamTree.Parameter.Filters
import ParamTree.Parameterizer

/-!
# Documents

Documents read from files, resolved, and written in one of three formats, with the errors that the
user is told.
-/

namespace ParamTree

inductive DocumentError where
  | internal (detail : String)
  | unreadable (detail : String)
  | notJson (detail : String)
  | config (error : ConfigError)
  | template (error : TemplateError)

namespace DocumentError

def message : DocumentError → String
  | .internal detail => s!"Error interno: {detail}"
  | .unreadable detail => s!"Error en IO: {detail}"
  | .notJson detail => s!"Documento JSON inválido: {detail}"
  | .config error => s!"Error de configuración: {error.message}"
  | .template error => s!"Parametrización fallida: {error.message}"

def exitCode : DocumentError → Nat
  | .config _ => 2
  | .notJson _ => 3
  | .internal _ => 3
  | .template _ => 4
  | .unreadable _ => 5

end DocumentError

inductive OutputFormat where
  | pretty
  | compact
  | canonical
deriving DecidableEq

namespace OutputFormat

def ofText (text : String) : Except DocumentError OutputFormat :=
  if normalized text = "pretty" then .ok pretty
  else if normalized text = "compact" then .ok compact
  else if normalized text = "canonical" then .ok canonical
  else .error (.internal s!"formato de salida desconocido: {normalized text}")

def write : OutputFormat → Json → String
  | pretty, value => value.pretty
  | compact, value => value.compact
  | canonical, value => value.canonical

end OutputFormat

namespace Document

variable {σ : Type}

def ofBytes (path : String) (bytes : Option ByteArray) : Except DocumentError Json :=
  match bytes.bind String.fromUTF8? with
  | none => .error (.unreadable path)
  | some text =>
    match Json.ofText? text with
    | none => .error (.notJson path)
    | some value => .ok value

/-- The fields of an object as parameters, which hide the standard filters of the same name. -/
def parameters : Json → Except DocumentError (ParameterSet σ)
  | .object fields =>
    .ok (fields.foldl (fun set field => set.insert field.1 (.value field.2))
      ParameterSet.empty.withStandardFilters)
  | _ => .error (.internal "el documento de parámetros debe ser un objeto JSON")

def render (template : Json) (params : ParameterSet σ) (config : Config) :
    Act σ (Except DocumentError Json) := fun world =>
  let (result, world) := (Parameterizer.isolated config).parameterize template params world
  (result.map (Except.mapError .template), world)

end Document

end ParamTree
