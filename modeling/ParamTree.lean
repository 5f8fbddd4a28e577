import ParamTree.Text.Basic
import ParamTree.Text.Letter
import ParamTree.Text.Case
import ParamTree.Text.Quoted
import ParamTree.Json.Canonical
import ParamTree.Json.Reader
import ParamTree.Value.Arithmetic
import ParamTree.Value.Comparison
import ParamTree.Plan
import ParamTree.Expr.Evaluation
import ParamTree.Expr.Parser
import ParamTree.Parameter.Filters
import ParamTree.Evaluator
import ParamTree.Config.Variables
import ParamTree.Config.Document
import ParamTree.Template.Segment
import ParamTree.Template.Error
import ParamTree.Parameterizer
import ParamTree.Document
import ParamTree.CommandLine.VariableFile
import ParamTree.Main
import ParamTree.Proofs.CallOrder
import ParamTree.Proofs.TallExpressions
import ParamTree.Proofs.Markers
import ParamTree.Proofs.Agreement
import ParamTree.Proofs.FragmentErrors
import ParamTree.Proofs.ErrorOrigin
import ParamTree.Proofs.Literals
import ParamTree.Proofs.LiteralValues
import ParamTree.Proofs.Derivation
import ParamTree.Proofs.ParserLimit
import ParamTree.Proofs.ParserExact
import ParamTree.Proofs.LookupDependence
import ParamTree.Proofs.Overlaps
import ParamTree.Proofs.KeptDocuments
import ParamTree.Proofs.TemplateFree
import ParamTree.Proofs.TokenEnds
import ParamTree.Proofs.Passages
import ParamTree.Proofs.Untimed
import ParamTree.Proofs.ConditionalDirective
import ParamTree.Proofs.Concatenation
import ParamTree.Proofs.Stages
import ParamTree.Proofs.FilterChains
import ParamTree.Proofs.Equality
import ParamTree.Proofs.OptionPrecedence
import ParamTree.Proofs.ConfigDocuments
import ParamTree.Proofs.CanonicalText
import ParamTree.Proofs.CallTimes
import ParamTree.Proofs.Deadlines
import ParamTree.Proofs.ExactComparison
import ParamTree.Proofs.KeyCollisions
import ParamTree.Proofs.TemplateParts
import ParamTree.Proofs.Fallback
import ParamTree.Proofs.Containment
import ParamTree.Proofs.IntegerArithmetic
import ParamTree.Proofs.IntegralFloats
import ParamTree.Proofs.ScalarTexts
import ParamTree.Proofs.Positions
import ParamTree.Proofs.InvocationOrder
import ParamTree.Proofs.BodyQuotes
import ParamTree.Proofs.PipelineRuns
import ParamTree.Proofs.WrittenPipelines
import ParamTree.Proofs.PipelineHeads
import ParamTree.Proofs.BlamedTokens
import ParamTree.Proofs.StringLiterals
import ParamTree.Proofs.Paths
import ParamTree.Proofs.TokenSpans
import ParamTree.Proofs.Siblings
import ParamTree.Proofs.ObtainableConfigs
