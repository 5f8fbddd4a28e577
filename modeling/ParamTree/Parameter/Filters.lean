import ParamTree.Json.Printer
import ParamTree.Parameter.Basic
import ParamTree.Text.Basic
import ParamTree.Text.Case

/-!
# Standard filters

Callables of one argument that stand ready for every document: `upper`, `lower` and `trim` for
strings, `length` for whatever has one, and `json` for the compact text of any value.
-/

namespace ParamTree

namespace Filter

def onString (name : String) (f : String → String) : Json → Except String Json
  | .string text => .ok (.string (f text))
  | value => .error s!"{name} expects a string, got {value.kind.name}"

def length : Json → Except String Json
  | .string text => .ok (.ofNat text.length)
  | .array items => .ok (.ofNat items.length)
  | .object fields => .ok (.ofNat fields.length)
  | value => .error s!"length expects a string, array or object, got {value.kind.name}"

def json (value : Json) : Except String Json :=
  .ok (.string value.compact)

def standard : List (String × (Json → Except String Json)) :=
  [("upper", onString "upper" Text.upper),
    ("lower", onString "lower" Text.lower),
    ("trim", onString "trim" Text.trim),
    ("length", length),
    ("json", json)]

def callable {σ : Type} (f : Json → Except String Json) : Callable σ :=
  .ofFunction 1 fun
    | [value] => f value
    | args => .error (Callable.arityMessage 1 args.length)

end Filter

namespace ParameterSet

/-- The set with the standard filters in place of whatever had their names. -/
def withStandardFilters {σ : Type} (params : ParameterSet σ) : ParameterSet σ :=
  Filter.standard.foldl
    (fun set filter => set.insert filter.1 (.callable (Filter.callable filter.2))) params

end ParameterSet

end ParamTree
