import ParamTree.Template.Pipeline
import ParamTree.Template.Segment
import ParamTree.Value.Arithmetic

/-!
# Interpolation

A text with its markers resolved. An expression that is the whole text keeps its type and may be
absent; any other marker has to have a scalar, whose text takes its place. A lenient configuration
keeps the text of a marker that fails.
-/

namespace ParamTree.Interpolation

def spliceText (result : Option Json) (expression fragment : String) : Template String :=
  match result.bind Json.scalarText? with
  | some text => .done text
  | none => Template.fault (.mismatch expression fragment (result.map Json.kind))

def splice (config : Config) (body fragment : String) : Template String :=
  match config.dialect with
  | .expression => do
    let result ← Template.evaluate (Text.trim body) fragment
    spliceText result (Text.trim body) fragment
  | .pipeline => do
    let value ← Pipeline.run body fragment
    spliceText (some value) (Text.trim body) fragment

def spliceSegments (config : Config) (fragment : String) : List Segment → Template String
  | [] => .done ""
  | .literal text :: rest => do
    let others ← spliceSegments config fragment rest
    return text ++ others
  | .marker raw body :: rest => do
    let text ← Template.orKeep config.isLenient (splice config body fragment) (.done raw)
    let others ← spliceSegments config fragment rest
    return text ++ others

def ofSegments (config : Config) (text : String) (segments : List Segment) :
    Template (Option Json) :=
  match config.dialect, segments with
  | .expression, [.marker raw body] =>
    Template.orKeep config.isLenient (Template.evaluate (Text.trim body) text)
      (.done (some (.string raw)))
  | _, segments => do
    let result ← spliceSegments config text segments
    return some (.string result)

/-- The result of a text. One without markers stays as it is. -/
def interpolate (config : Config) (text : String) : Template (Option Json) :=
  let segments := Segment.scan config.delimiters text
  if segments.any Segment.isMarker then
    ofSegments config text segments
  else
    .done (some (.string text))

end ParamTree.Interpolation
