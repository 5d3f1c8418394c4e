/-
# Directive.Execute -- `EXECUTE`

How a template is executed.  Two different executions in one template conflict,
and a prompt to a model is what a template has without the command.
-/
import PromptPipeline.Directive.Basic

namespace PromptPipeline.Directive.Execute

set_option autoImplicit false

/-- The name of the directive. -/
def name : String := "EXECUTE"

/-- The words of an execution. -/
def parse (a : Arguments) : Except ParseError Command :=
  let words := Text.join " " a.words
  match Execution.ofKeyword? words with
  | some execution => .ok (.execute execution)
  | none => .error (.invalidArguments (.unknownExecution words))

/-- The line of the command. -/
def write : Command → Except ParseError String
  | .execute execution => .ok ("EXECUTE " ++ execution.capitals)
  | other => .error (.wrongCommand name other.kind)

/-- Set the execution, unless the template has another one already. -/
def onTemplate : Command → Edit Draft
  | .execute execution, d =>
      let current := d.template.execution
      if current ≠ .promptTemplate ∧ current ≠ execution then
        refuse (.conflict (.execution d.template.title current execution)) d
      else .ok { d with template := { d.template with execution := execution } }
  | other, d => refuse (.wrongCommand name other.kind) d

/-- The execution of a template, if it is no prompt to a model. -/
def fromTemplate (d : Draft) : List Command :=
  if d.template.execution = .promptTemplate then [] else [.execute d.template.execution]

end Execute

/-- How a template is executed. -/
def execute : Directive where
  name := Execute.name
  aliases := ["EXEC"]
  places := [.template]
  description := "How the template is executed: prompt, simple interpolation, script or dialog"
  documentation := documentationUrl
  examples := [
    "EXECUTE PROMPT TEMPLATE",
    "EXECUTE SIMPLE TEMPLATE",
    "EXECUTE SCRIPT",
    "EXECUTE PROMPT DIALOG",
    "execute prompt template",
    "EXEC `prompt dialog`",
    "EXECUTE PROMPT_TEMPLATE" ]
  produces := [.execute]
  parse := Execute.parse
  write := Execute.write
  onHead := none
  onTemplate := some Execute.onTemplate
  fromHead := none
  fromTemplate := some Execute.fromTemplate

end PromptPipeline.Directive
