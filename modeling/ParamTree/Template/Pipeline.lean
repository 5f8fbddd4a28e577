import ParamTree.Template.Segment
import ParamTree.Template.Request
import ParamTree.Text.Basic

/-!
# Pipelines

A pipeline begins with a quoted text or a name and sends its value through filters, with bars
between the stages. A bar inside of quotes separates nothing; a backslash means nothing here.
-/

namespace ParamTree.Pipeline

def putFirst (c : Char) (stages : List Char × List (List Char)) : List Char × List (List Char) :=
  (c :: stages.1, stages.2)

/-- The first stage and the others. `quote` is the quote that is still to be closed. -/
def stages (quote : Option Char) : List Char → List Char × List (List Char)
  | [] => ([], [])
  | c :: rest =>
    match quote with
    | some q => putFirst c (stages (if c = q then none else some q) rest)
    | none =>
      if c = '|' then
        ([], (stages none rest).1 :: (stages none rest).2)
      else
        putFirst c (stages (if isQuote c then some c else none) rest)

/-- What stands between two quotes of one kind that begin and end the text. -/
def unquoted? : List Char → Option (List Char)
  | [] => none
  | q :: rest => if isQuote q ∧ rest.getLast? = some q then some rest.dropLast else none

/-- The value that a pipeline begins with. -/
def start (head fragment : String) : Template Json :=
  match unquoted? head.toList with
  | some text => .done (.string (String.ofList text))
  | none => do
    match ← Template.lookup head with
    | some (.value value) => return value
    | some (.function 0) => do
      match ← Template.invoke head [] with
      | .ok value => return value
      | .error message =>
        Template.fault (.ofEvaluation head fragment (.ofFault (.callFailed head message)))
    | _ => Template.fault (.unresolved head fragment)

def filter (expression fragment name : String) (value : Json) : Template Json := do
  match ← Template.lookup name with
  | some (.function 1) => do
    match ← Template.invoke name [value] with
    | .ok value => return value
    | .error message =>
      Template.fault (.ofEvaluation expression fragment (.ofFault (.callFailed name message)))
  | some _ => Template.fault (.invalidFilter name fragment)
  | none => Template.fault (.unresolved name fragment)

def filters (expression fragment : String) : List String → Json → Template Json
  | [], value => .done value
  | name :: names, value => do
    let value ← filter expression fragment name value
    filters expression fragment names value

def trimmed (stage : List Char) : String :=
  String.ofList (Text.trimBlanks stage)

def run (body fragment : String) : Template Json := do
  let (head, others) := stages none body.toList
  let value ← start (trimmed head) fragment
  filters (Text.trim body) fragment (others.map trimmed) value

end ParamTree.Pipeline
