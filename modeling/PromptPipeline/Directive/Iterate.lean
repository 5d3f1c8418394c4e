/-
# Directive.Iterate -- `FOREACH`

Repeats a template over the cells of a list or table.  The command can be read;
applying it and writing it back are not available.
-/
import PromptPipeline.Directive.Basic

namespace PromptPipeline.Directive.Iterate

set_option autoImplicit false

/-- The name of the directive. -/
def name : String := "FOREACH"

/-- A format, a cell, an arrow and a parameter name.  An argument that is not there
reads as an empty word. -/
def parse (a : Arguments) : Except ParseError Command := do
  let word (index : Nat) := a.words.getD index ""
  match IterationFormat.ofKeyword? (word 0) with
  | none => throw (.invalidArguments .noIterationFormat)
  | some format =>
      match IterationCell.ofKeyword? (word 1) with
      | none => throw (.invalidArguments (.unsupportedCell format (word 1)))
      | some part =>
          if word 2 ≠ "->" then throw (.invalidArguments .noArrow)
          else if a.words.length ≠ 4 then throw (.invalidArguments .noIterationParameter)
          else
            match Name.validate (word 3) with
            | .ok parameter => return .iterate format part parameter
            | .error refusal => throw (.invalidName refusal)

/-- There is no line for the command. -/
def write : Command → Except ParseError String
  | .iterate .. => .error (.notImplemented name "stringify")
  | other => .error (.wrongCommand name other.kind)

/-- The command is refused in every template. -/
def onTemplate : Command → Edit Draft
  | .iterate .., d => refuse (.notImplemented name "apply to template") d
  | other, d => refuse (.wrongCommand name other.kind) d

end Iterate

/-- A repetition of the template. -/
def iterate : Directive where
  name := Iterate.name
  aliases := ["FOR", "EACH"]
  places := [.template]
  description := "Iterate the template over the cells of a list or table parameter"
  documentation := documentationUrl
  examples := [
    "FOREACH List Line -> `\x7bcustomer\x7d`",
    "FOR List Line -> `\x7bcustomer\x7d`",
    "EACH List Line -> `\x7bcustomer\x7d`",
    "FOREACH Csv Row -> \x7brow\x7d" ]
  produces := [.iterate]
  parse := Iterate.parse
  write := Iterate.write
  onHead := none
  onTemplate := some Iterate.onTemplate
  fromHead := none
  fromTemplate := none

end PromptPipeline.Directive
