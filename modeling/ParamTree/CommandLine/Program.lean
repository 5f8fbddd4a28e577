import ParamTree.CommandLine.Options
import ParamTree.CommandLine.VariableFile

/-!
# The command line

The program as a function of its arguments, the environment and the files: what it writes and the
code that it ends with.
-/

namespace ParamTree.CommandLine

/-- What the program sees of the outside. A file that cannot be read has no bytes. -/
structure Surroundings where
  environment : String → Option String
  file? : String → Option ByteArray

structure Output where
  exitCode : Nat
  stdout : String
  stderr : String
deriving DecidableEq

def usage : String :=
  "Uso: jsonparam render --template <FILE> [--params <FILE>] [--dialect expression|pipeline] " ++
  "[--open <TOK> --close <TOK>] [--lenient] [--timeout-ms <N>] " ++
  "[--format pretty|compact|canonical | --compact | --canonical]"

def note (text : String) : String :=
  s!"[jsonparam] {text}\n"

def misuse (detail : String) : Output :=
  ⟨2, "", note detail ++ usage ++ "\n"⟩

def variableFile : String := ".env"

def assignments (surroundings : Surroundings) : List VariableFile.Assignment :=
  match surroundings.file? variableFile with
  | some bytes => VariableFile.ofBytes bytes
  | none => []

/-- The variables of the environment, completed by those of the file. -/
def settings (surroundings : Surroundings) : String → Option String :=
  VariableFile.lookupIn surroundings.environment
    (VariableFile.values surroundings.environment [] (assignments surroundings))

def parameters (surroundings : Surroundings) (path : Option String) :
    Except DocumentError (ParameterSet Unit) :=
  match path with
  | none => .ok ParameterSet.empty.withStandardFilters
  | some path => do
    let document ← Document.ofBytes path (surroundings.file? path)
    Document.parameters document

/-- The text of a rendering. No callable of a document can crash. -/
def render (surroundings : Surroundings) (path : String) (options : Options) :
    Except DocumentError String := do
  let config ← (configure (settings surroundings) options).mapError .config
  let template ← Document.ofBytes path (surroundings.file? path)
  let params ← parameters surroundings options.params
  match (Document.render template params config ⟨(), 0⟩).1 with
  | some result => do
    let document ← result
    return options.format.write document
  | none => .error (.internal "crashed")

def run (surroundings : Surroundings) : List String → Output
  | "render" :: args =>
    match Options.parse .standard args with
    | .error detail => misuse detail
    | .ok options =>
      match options.template with
      | none => misuse "falta --template"
      | some path =>
        match render surroundings path options with
        | .ok text => ⟨0, text ++ "\n", ""⟩
        | .error error => ⟨error.exitCode, "", note error.message⟩
  | _ => misuse "comando desconocido"

def files (args : List String) : List String :=
  match Options.parse .standard (args.drop 1) with
  | .ok options => variableFile :: (options.template.toList ++ options.params.toList)
  | .error _ => []

def variableNames (bytes : Option ByteArray) : List String :=
  let file := (bytes.map VariableFile.ofBytes).getD []
  [Config.dialectVariable, Config.openingVariable, Config.closingVariable, Config.policyVariable,
    Config.timeoutVariable] ++ VariableFile.references file

end ParamTree.CommandLine
