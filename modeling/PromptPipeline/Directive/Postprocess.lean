/-
# Directive.Postprocess -- `POSTPROCESS`

A function that is applied to the result before the expectations are checked.
The functions run in order and one may run twice.
-/
import PromptPipeline.Directive.Basic

namespace PromptPipeline.Directive.Postprocess

set_option autoImplicit false

/-- The name of the directive. -/
def name : String := "POSTPROCESS"

/-- Whether a character may start a function name. -/
def isFunctionStart (c : Char) : Bool := c.isAlpha || c == '_' || c == '$'

/-- Whether a text is a function name: an ASCII identifier, the dollar sign counting
as a letter. -/
def isFunctionName : List Char → Bool
  | [] => false
  | c :: rest => isFunctionStart c && rest.all fun d => isFunctionStart d || d.isDigit

/-- Exactly one function name. -/
def parse (a : Arguments) : Except ParseError Command := do
  let function ← a.single name
  if isFunctionName function.toList then return .postprocess function
  else throw (.invalidArguments (.invalidFunction function))

/-- The line of the command. -/
def write : Command → Except ParseError String
  | .postprocess function => .ok ("POSTPROCESS `" ++ function ++ "`")
  | other => .error (.wrongCommand name other.kind)

/-- Put the function after the others. -/
def onTemplate : Command → Edit Draft
  | .postprocess function, d =>
      .ok { d with
        template := { d.template with postprocessing := d.template.postprocessing ++ [function] } }
  | other, d => refuse (.wrongCommand name other.kind) d

/-- The functions of a template. -/
def fromTemplate (d : Draft) : List Command := d.template.postprocessing.map .postprocess

end Postprocess

/-- A function applied to the result. -/
def postprocess : Directive where
  name := Postprocess.name
  aliases := ["POST_PROCESS"]
  places := [.template]
  description := "Function applied to the result before expectations are checked"
  documentation := documentationUrl
  examples := [
    "POSTPROCESS unwrapResult",
    "POSTPROCESS `trimEndOfCodeBlock`",
    "POST PROCESS removeQuotes" ]
  produces := [.postprocess]
  parse := Postprocess.parse
  write := Postprocess.write
  onHead := none
  onTemplate := some Postprocess.onTemplate
  fromHead := none
  fromTemplate := some Postprocess.fromTemplate

end PromptPipeline.Directive
