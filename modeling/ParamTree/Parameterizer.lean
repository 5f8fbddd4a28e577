import ParamTree.Template.Substitution

/-!
# Parameterized documents

A document resolved against parameters: a configuration says how, an evaluator gives the results of
expressions, and the world remembers what the callables did.
-/

namespace ParamTree

structure Parameterizer (σ : Type) where
  config : Config
  evaluator : Evaluator σ

namespace Parameterizer

variable {σ : Type}

def isolated (config : Config) : Parameterizer σ :=
  ⟨config, Evaluator.standard⟩

def cooperative (config : Config) : Parameterizer σ :=
  ⟨config, Evaluator.cooperative⟩

def perform {α : Type} (engine : Parameterizer σ) (params : ParameterSet σ) (plan : Template α) :
    Act σ (Except TemplateError α) :=
  plan.run (params.answerTemplate engine.evaluator engine.config.timeout)

def interpolate (engine : Parameterizer σ) (text : String) (params : ParameterSet σ) :
    Act σ (Except TemplateError (Option Json)) :=
  engine.perform params (Interpolation.interpolate engine.config text)

def substitute (engine : Parameterizer σ) (document : Json) (params : ParameterSet σ) :
    Act σ (Except TemplateError (Option Json)) :=
  engine.perform params (Substitution.walk engine.config document)

/-- Like `substitute`, with `null` for a document that is absent as a whole. -/
def parameterize (engine : Parameterizer σ) (document : Json) (params : ParameterSet σ) :
    Act σ (Except TemplateError Json) := fun world =>
  let (result, world) := engine.substitute document params world
  (result.map (Except.map (Option.getD · .null)), world)

end Parameterizer

def parameterize {σ : Type} (document : Json) (params : ParameterSet σ) :
    Act σ (Except TemplateError Json) :=
  (Parameterizer.isolated Config.standard).parameterize document params

end ParamTree
