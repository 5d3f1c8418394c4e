/-
# Directive.Model -- `MODEL VARIANT` and `MODEL NAME`

In the head the command sets the defaults of the pipeline, of which the first of
each key wins; in a template it sets the requirements of the template, of which
two different ones of a key conflict.

The requirements come into being before the value is read, so a value that is no
variant leaves requirements without any demand where there were none.
-/
import PromptPipeline.Directive.Basic

namespace PromptPipeline.Directive.Model

set_option autoImplicit false

/-- The name of the directive. -/
def name : String := "MODEL"

/-- A key and its value: the words of a variant, or one model name. -/
def parse (a : Arguments) : Except ParseError Command :=
  match a.words with
  | [] => .error (.invalidArguments .noModelKey)
  | word :: values =>
      let key := Unicode.upperText word
      if key = "VARIANT" then
        let words := Text.join " " values
        match ModelVariant.ofKeyword? words with
        | some variant => .ok (.model .variant variant.word)
        | none => .error (.invalidArguments (.variantNotKnown words))
      else if key = "NAME" then
        match values with
        | [model] => .ok (.model .name model)
        | _ => .error (.invalidArguments .notOneModelName)
      else .error (.invalidArguments (.unknownModelKey key))

/-- The line of the command. -/
def write : Command → Except ParseError String
  | .model .variant value =>
      match ModelVariant.ofKeyword? value with
      | some variant => .ok ("MODEL VARIANT " ++ variant.title)
      | none => .error (.invalidArguments (.unknownVariant value))
  | .model .name value => .ok ("MODEL NAME `" ++ value ++ "`")
  | other => .error (.wrongCommand name other.kind)

/-- What becomes of requirements when one more is made: they hold it now, or have
another one already. -/
inductive Demand
  | met (requirements : ModelRequirements)
  | taken (existing : String)
  | unknown

/-- Make one more requirement. -/
def demand (r : ModelRequirements) : ModelKey → String → Demand
  | .variant, value =>
      match ModelVariant.ofKeyword? value with
      | none => .unknown
      | some variant =>
          match r.variant with
          | none => .met { r with variant := some variant }
          | some existing => if existing = variant then .met r else .taken existing.title
  | .name, value =>
      match r.name with
      | none => .met { r with name := some value }
      | some existing => if existing = value then .met r else .taken existing

/-- Set a default of the pipeline, unless it has one. -/
def onHead : Command → Edit Pipeline
  | .model key value, p =>
      let begun := { p with defaults := some (p.defaults.getD {}) }
      match demand (p.defaults.getD {}) key value with
      | .met requirements => .ok { p with defaults := some requirements }
      | .taken existing => ⟨[.defaultSet key value existing], .ok begun⟩
      | .unknown => refuse (.invalidArguments (.unknownVariant value)) begun
  | other, p => refuse (.wrongCommand name other.kind) p

/-- Set a requirement of the template, unless it has another one. -/
def onTemplate : Command → Edit Draft
  | .model key value, d =>
      let withRequirements (r : ModelRequirements) : Draft :=
        { d with template := { d.template with requirements := some r } }
      let begun := withRequirements (d.template.requirements.getD {})
      match demand (d.template.requirements.getD {}) key value with
      | .met requirements => .ok (withRequirements requirements)
      | .taken existing =>
          refuse (.conflict (.requirement d.template.title key existing value)) begun
      | .unknown => refuse (.invalidArguments (.unknownVariant value)) begun
  | other, d => refuse (.wrongCommand name other.kind) d

/-- The commands that make requirements. -/
def commands (requirements : Option ModelRequirements) : List Command :=
  match requirements with
  | none => []
  | some r =>
      (r.variant.toList.map fun variant => .model .variant variant.word)
        ++ (r.name.toList.map fun model => .model .name model)

/-- The defaults of a pipeline. -/
def fromHead (p : Pipeline) : List Command := commands p.defaults

/-- The requirements of a template. -/
def fromTemplate (d : Draft) : List Command := commands d.template.requirements

end Model

/-- A requirement on the model. -/
def model : Directive where
  name := Model.name
  aliases := []
  places := [.head, .template]
  description := "Requirements the executing model must satisfy"
  documentation := documentationUrl
  examples := [
    "MODEL VARIANT Chat",
    "MODEL VARIANT Completion",
    "MODEL NAME gpt-4",
    "MODEL NAME `gpt-3.5-turbo-instruct`" ]
  produces := [.model]
  parse := Model.parse
  write := Model.write
  onHead := some Model.onHead
  onTemplate := some Model.onTemplate
  fromHead := some Model.fromHead
  fromTemplate := some Model.fromTemplate

end PromptPipeline.Directive
