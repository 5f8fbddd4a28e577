import ParamTree.Template.Directive
import ParamTree.Template.Interpolation

/-!
# Substitution

A document with its texts, keys and directives resolved. An absent result takes its entry or element
out of the document. Keys come before their values, entries and elements in order; of a directive,
only the field that decides and the branch that it selects are resolved. In a lenient configuration
a directive that fails is resolved as the plain object that it is.
-/

namespace ParamTree.Substitution

/-- A field of an object as it stands, and the plan for it. -/
abbrev Field : Type := Json × Template (Option Json)

/-- The text that a key becomes. A key whose result is no text stays. -/
def resolveKey (config : Config) (key : String) : Template String := do
  match ← Interpolation.interpolate config key with
  | some (.string text) => return text
  | _ => return key

def elements (position : Nat) : List (Template (Option Json)) → Template (List Json)
  | [] => .done []
  | item :: items => do
    let result ← Template.under (.index position) item
    let values ← elements (position + 1) items
    match result with
    | some value => return value :: values
    | none => return values

def entries (config : Config) : List (String × Field) → Template (List (String × Json))
  | [] => .done []
  | (key, _, plan) :: fields => do
    let name ← Template.under (.key key) (resolveKey config key)
    let result ← Template.under (.key key) plan
    let others ← entries config fields
    match result with
    | some value => return (name, value) :: others
    | none => return others

/-- An object that is not a directive, or not treated as one. -/
def mapping (config : Config) (fields : List (String × Field)) : Template (Option Json) := do
  let pairs ← entries config fields
  return some (.object (Entries.ofList pairs))

/-- The result of the deciding field of a directive. Only a text is an expression. -/
def decision : Json → Template (Option Json)
  | .string text => Template.evaluate text text
  | value => .done (some value)

def branch (label : String) : Option Field → Template (Option Json)
  | some field => Template.under (.key label) field.2
  | none => .done none

def directive (config : Config) (fields : List (String × Field)) :
    Directive Field → Template (Option Json)
  | .conditional condition yes no => do
    let result ← Template.under (.key ifKey) (decision condition.1)
    if truthy result then branch thenKey yes else branch elseKey no
  | .selection selector cases => do
    match ← Template.under (.key switchKey) (decision selector.1) with
    | none => return none
    | some value => do
      let source := selector.1.string?.getD ""
      let label ← Template.under (.key switchKey)
        (Interpolation.spliceText (some value) source source)
      branch label (if label = switchKey then none else Entries.get? cases label)
  | .evaluation expression => Template.under (.key evalKey) (decision expression.1)
  | .plain => mapping config fields

def object (config : Config) (fields : List (String × Field)) : Template (Option Json) :=
  Template.orKeep config.isLenient (directive config fields (Directive.classify fields))
    (mapping config fields)

mutual

def walk (config : Config) : Json → Template (Option Json)
  | .string text => Interpolation.interpolate config text
  | .array items => do
    let values ← elements 0 (walkItems config items)
    return some (.array values)
  | .object fields => object config (walkFields config fields)
  | scalar => .done (some scalar)

def walkItems (config : Config) : List Json → List (Template (Option Json))
  | [] => []
  | item :: items => walk config item :: walkItems config items

def walkFields (config : Config) : List (String × Json) → List (String × Field)
  | [] => []
  | (key, value) :: fields => (key, value, walk config value) :: walkFields config fields

end

end ParamTree.Substitution
