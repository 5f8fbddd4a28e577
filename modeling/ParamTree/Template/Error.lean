import ParamTree.Expr.Evaluation

/-!
# Errors of a document

What failed while a document was resolved, in which text, and where in the document that text
stands. Paths are written from the root, with a dot before a plain key and with brackets around an
index or any other key.
-/

namespace ParamTree

inductive PathSegment where
  | key (key : String)
  | index (index : Nat)
deriving DecidableEq

namespace PathSegment

def isKeyStart (c : Char) : Bool :=
  c.isAlpha || c = '_' || c = '$'

def isKeyPart (c : Char) : Bool :=
  c.isAlphanum || c = '_' || c = '$'

def isPlainKey : List Char → Bool
  | [] => false
  | c :: rest => isKeyStart c && rest.all isKeyPart

def chars : PathSegment → List Char
  | .index i => '[' :: Nat.toDigits 10 i ++ [']']
  | .key k =>
    if isPlainKey k.toList then '.' :: k.toList else '[' :: Json.stringChars k ++ [']']

def pathString (path : List PathSegment) : String :=
  String.ofList ('$' :: path.flatMap chars)

end PathSegment

inductive TemplateFault where
  | unresolved (name fragment : String)
  | invalidFilter (name fragment : String)
  | evaluation (expression fragment : String) (cause : EvalError)
  | timedOut (expression fragment : String) (limit : Duration)
  | mismatch (expression fragment : String) (found : Option Json.Kind)
deriving DecidableEq

namespace TemplateFault

/-- The failure of an evaluation. One that took too long is a fault of its own. -/
def ofEvaluation (expression fragment : String) : EvalError → TemplateFault
  | .timeout limit => .timedOut expression fragment limit
  | cause => .evaluation expression fragment cause

def expression : TemplateFault → String
  | .unresolved name _ => name
  | .invalidFilter name _ => name
  | .evaluation expression _ _ => expression
  | .timedOut expression _ _ => expression
  | .mismatch expression _ _ => expression

def fragment : TemplateFault → String
  | .unresolved _ fragment => fragment
  | .invalidFilter _ fragment => fragment
  | .evaluation _ fragment _ => fragment
  | .timedOut _ fragment _ => fragment
  | .mismatch _ fragment _ => fragment

def message : TemplateFault → String
  | .unresolved name fragment => s!"unresolved reference `{name}` in `{fragment}`"
  | .invalidFilter name fragment =>
    s!"`{name}` is not a one-argument function (used as filter in `{fragment}`)"
  | .evaluation expression fragment cause =>
    s!"failed to evaluate `{expression}` in `{fragment}`: {cause.message}"
  | .timedOut expression fragment limit =>
    s!"evaluation of `{expression}` in `{fragment}` exceeded {limit.milliseconds}ms"
  | .mismatch expression fragment found =>
    s!"cannot splice {kindName found} result of `{expression}` into `{fragment}`"

end TemplateFault

structure TemplateError where
  fault : TemplateFault
  path : List PathSegment
deriving DecidableEq

namespace TemplateError

def ofFault (fault : TemplateFault) : TemplateError :=
  ⟨fault, []⟩

def under (segment : PathSegment) (error : TemplateError) : TemplateError :=
  { error with path := segment :: error.path }

def pathString (error : TemplateError) : String :=
  PathSegment.pathString error.path

def message (error : TemplateError) : String :=
  s!"{error.fault.message} (at {error.pathString})"

end TemplateError

end ParamTree
