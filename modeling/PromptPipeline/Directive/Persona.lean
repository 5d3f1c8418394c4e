/-
# Directive.Persona -- `PERSONA`

Registers a persona with the pipeline; in a template it also makes the template
speak as the persona.  The descriptions of one persona are merged: one that is
contained in what is there adds nothing.
-/
import PromptPipeline.Directive.Basic

namespace PromptPipeline.Directive.Persona

set_option autoImplicit false

open Unicode (isBlank)

/-- The name of the directive. -/
def name : String := "PERSONA"

/-- The name of a persona as it is written, without white space and backticks
around it. -/
def bareName (s : List Char) : List Char :=
  Text.strip isBlank (Text.strip (· == '`') (Text.strip isBlank s))

/-- A name and, after the first comma, a description. -/
def parse (a : Arguments) : Except ParseError Command :=
  let source := (a.sourceFrom 0).toList
  let persona := bareName (source.takeWhile (· != ','))
  let description := Text.strip isBlank (source.dropWhile (· != ',')).tail
  if persona.isEmpty then .error (.invalidArguments .noPersonaName)
  else
    .ok (.persona (String.ofList persona)
      (if description.isEmpty then none else some (String.ofList description)))

/-- The line of the command. -/
def write : Command → Except ParseError String
  | .persona persona (some description) => .ok ("PERSONA " ++ persona ++ ", " ++ description)
  | .persona persona none => .ok ("PERSONA " ++ persona)
  | other => .error (.wrongCommand name other.kind)

/-- A description with a further one, which is kept once. -/
def merge (existing addition : String) : String :=
  let added := Text.trim addition
  if added.isEmpty || Text.contains added existing then existing
  else if existing.isEmpty then added
  else existing ++ " " ++ added

/-- The personas after a command: the first of the name gets the description, or a
new one is put at the end. -/
def register (persona description : String) :
    List PromptPipeline.Persona → List PromptPipeline.Persona
  | [] => [{ name := persona, description := Text.trim description }]
  | first :: rest =>
      if first.name = persona then
        { first with description := merge first.description description } :: rest
      else first :: register persona description rest

/-- Register the persona. -/
def onHead : Command → Edit Pipeline
  | .persona persona description, p =>
      .ok { p with personas := register persona (description.getD "") p.personas }
  | other, p => refuse (.wrongCommand name other.kind) p

/-- Register the persona and speak as it, unless the template speaks as another. -/
def onTemplate : Command → Edit Draft
  | .persona persona description, d =>
      match d.template.persona with
      | some existing =>
          if existing = persona then enter persona description d
          else refuse (.conflict (.persona d.template.title existing persona)) d
      | none => enter persona description d
  | other, d => refuse (.wrongCommand name other.kind) d
where
  /-- The registered persona becomes the one of the template. -/
  enter (persona : String) (description : Option String) : Edit Draft := fun d =>
    .ok {
      template := { d.template with persona := some persona }
      pipeline :=
        { d.pipeline with
          personas := register persona (description.getD "") d.pipeline.personas } }

/-- The personas of a pipeline. -/
def fromHead (p : Pipeline) : List Command :=
  p.personas.map fun q =>
    .persona q.name (if q.description.isEmpty then none else some q.description)

/-- The persona of a template; its description is in the head. -/
def fromTemplate (d : Draft) : List Command := d.template.persona.toList.map (.persona · none)

end Persona

/-- A persona. -/
def persona : Directive where
  name := Persona.name
  aliases := []
  places := [.head, .template]
  description := "Persona the model impersonates, with an optional description"
  documentation := documentationUrl
  examples := [
    "PERSONA Jane, skilled copywriter",
    "PERSONA Joe, lawyer from New York",
    "persona Paul" ]
  produces := [.persona]
  parse := Persona.parse
  write := Persona.write
  onHead := some Persona.onHead
  onTemplate := some Persona.onTemplate
  fromHead := some Persona.fromHead
  fromTemplate := some Persona.fromTemplate

end PromptPipeline.Directive
