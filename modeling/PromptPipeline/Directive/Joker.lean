/-
# Directive.Joker -- `JOKER`

A parameter that is taken as the result when it already meets the expectations,
so that the template need not be executed.
-/
import PromptPipeline.Directive.Basic

namespace PromptPipeline.Directive.Joker

set_option autoImplicit false

/-- The name of the directive. -/
def name : String := "JOKER"

/-- Exactly one parameter name. -/
def parse (a : Arguments) : Except ParseError Command := do
  let raw ← a.single name
  match Name.validate raw with
  | .ok parameter => return .joker parameter
  | .error refusal => throw (.invalidName refusal)

/-- The line of the command. -/
def write : Command → Except ParseError String
  | .joker parameter => .ok ("JOKER " ++ braced parameter)
  | other => .error (.wrongCommand name other.kind)

/-- Put the joker after the others, unless it is among them. -/
def onTemplate : Command → Edit Draft
  | .joker parameter, d =>
      if d.template.jokers.contains parameter then .ok d
      else .ok { d with template := { d.template with jokers := d.template.jokers ++ [parameter] } }
  | other, d => refuse (.wrongCommand name other.kind) d

/-- The jokers of a template. -/
def fromTemplate (d : Draft) : List Command := d.template.jokers.map .joker

end Joker

/-- A parameter that may stand for the result. -/
def joker : Directive where
  name := Joker.name
  aliases := []
  places := [.template]
  description := "Parameter used as the result when it already meets the expectations"
  documentation := documentationUrl
  examples := ["JOKER \x7bdocumentTitle\x7d", "joker `\x7bname\x7d`"]
  produces := [.joker]
  parse := Joker.parse
  write := Joker.write
  onHead := none
  onTemplate := some Joker.onTemplate
  fromHead := none
  fromTemplate := some Joker.fromTemplate

end PromptPipeline.Directive
