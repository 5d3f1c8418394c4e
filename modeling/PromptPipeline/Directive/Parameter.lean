/-
# Directive.Parameter -- `PARAMETER`, `INPUT PARAMETER` and `OUTPUT PARAMETER`

Declares a parameter, with the rest of the line as its description.  A name is
declared at most once in a pipeline.
-/
import PromptPipeline.Directive.Basic

namespace PromptPipeline.Directive.Parameter

set_option autoImplicit false

/-- The name of the directive. -/
def name : String := "PARAMETER"

/-- A parameter name and an optional description. -/
def parse (a : Arguments) : Except ParseError Command :=
  match a.words with
  | [] => .error (.invalidArguments .noParameterName)
  | raw :: _ =>
      match Name.validate raw with
      | .error refusal => .error (.invalidName refusal)
      | .ok parameter =>
          let description := a.sourceFrom 1
          .ok (.parameter parameter (if description.isEmpty then none else some description)
            (Text.startsWith "INPUT" a.keyword) (Text.startsWith "OUTPUT" a.keyword))

/-- The line of the command; there is none for a parameter that is both input and
output. -/
def write : Command → Except ParseError String
  | .parameter parameter description isInput isOutput =>
      if isInput && isOutput then .error (.invalidArguments (.inputAndOutput parameter))
      else
        let keyword :=
          if isInput then "INPUT PARAMETER"
          else if isOutput then "OUTPUT PARAMETER"
          else "PARAMETER"
        .ok (keyword ++ " " ++ braced parameter ++ (description.map (" " ++ ·)).getD "")
  | other => .error (.wrongCommand name other.kind)

/-- Declare the parameter, unless there is one of its name. -/
def onHead : Command → Edit Pipeline
  | .parameter parameter description isInput isOutput, p =>
      if (p.parameter? parameter).isSome then refuse (.conflict (.parameterTwice parameter)) p
      else
        .ok { p with parameters := p.parameters ++ [⟨parameter, description, isInput, isOutput⟩] }
  | other, p => refuse (.wrongCommand name other.kind) p

/-- A declaration in a template is one of the pipeline. -/
def onTemplate (c : Command) : Edit Draft := Edit.onPipeline (onHead c)

/-- The declarations of a pipeline. -/
def fromHead (p : Pipeline) : List Command :=
  p.parameters.map fun q => .parameter q.name q.description q.isInput q.isOutput

end Parameter

/-- A declaration of a parameter. -/
def parameter : Directive where
  name := Parameter.name
  aliases := ["INPUT_PARAMETER", "OUTPUT_PARAMETER"]
  places := [.head, .template]
  description := "Declares a parameter with optional description and input/output flag"
  documentation := documentationUrl
  examples := [
    "PARAMETER \x7btitle\x7d Title of the book",
    "INPUT PARAMETER \x7bthing\x7d Any thing to buy",
    "OUTPUT PARAMETER `\x7bresponse\x7d`",
    "input parameter \x7bname\x7d" ]
  produces := [.parameter]
  parse := Parameter.parse
  write := Parameter.write
  onHead := some Parameter.onHead
  onTemplate := some Parameter.onTemplate
  fromHead := some Parameter.fromHead
  fromTemplate := none

end PromptPipeline.Directive
