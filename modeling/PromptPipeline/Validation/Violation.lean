/-
# Validation.Violation -- the broken invariants of a pipeline

Each kind of violation has a code from `E001` to `E015` that tools look for.
-/
import PromptPipeline.Text.Quoted

namespace PromptPipeline

set_option autoImplicit false

open Text (quoted)

/-- One broken invariant. -/
inductive Violation
  | invalidUrl (url : String)
  | invalidVersion (version : String)
  | parameterTwice (parameter : String)
  | reservedParameter (parameter : String)
  | templateNameTwice (template : String)
  | emptyContent (template : String)
  | undefinedParameter (template parameter : String)
  | resultNotDeclared (template parameter : String)
  | severalProducers (parameter : String) (templates : List String)
  | inputProduced (parameter template : String)
  | outputNotProduced (parameter : String)
  | unresolved (parameter : String)
  | cycle (parameters : List String)
  | unknownPersona (template persona : String)
  | unknownSource (template source : String)
deriving Repr, DecidableEq

namespace Violation

/-- The code of a violation. -/
def code : Violation → String
  | invalidUrl _ => "E001"
  | invalidVersion _ => "E002"
  | parameterTwice _ => "E003"
  | reservedParameter _ => "E004"
  | templateNameTwice _ => "E005"
  | emptyContent _ => "E006"
  | undefinedParameter .. => "E007"
  | resultNotDeclared .. => "E008"
  | severalProducers .. => "E009"
  | inputProduced .. => "E010"
  | outputNotProduced _ => "E011"
  | unresolved _ => "E012"
  | cycle _ => "E013"
  | unknownPersona .. => "E014"
  | unknownSource .. => "E015"

/-- A parameter name between braces. -/
def placeholder (name : String) : String := "\x7b" ++ name ++ "\x7d"

/-- The wording after the code. -/
def explanation : Violation → String
  | invalidUrl url => "Pipeline URL " ++ quoted url ++ " is not an absolute https URL"
  | invalidVersion version => "Version " ++ quoted version ++ " is not a valid semantic version"
  | parameterTwice parameter =>
      "Parameter " ++ placeholder parameter ++ " is declared more than once"
  | reservedParameter parameter =>
      "Parameter " ++ placeholder parameter ++ " is reserved and can not be declared"
  | templateNameTwice template => "Template name " ++ quoted template ++ " is used more than once"
  | emptyContent template => "Template " ++ quoted template ++ " has an empty body"
  | undefinedParameter template parameter =>
      "Template " ++ quoted template ++ " depends on " ++ placeholder parameter
        ++ " which is not defined"
  | resultNotDeclared template parameter =>
      "Template " ++ quoted template ++ " produces " ++ placeholder parameter
        ++ " which is not declared"
  | severalProducers parameter templates =>
      "Parameter " ++ placeholder parameter ++ " is produced by several templates: "
        ++ Text.join ", " templates
  | inputProduced parameter template =>
      "Input parameter " ++ placeholder parameter ++ " is also produced by template "
        ++ quoted template
  | outputNotProduced parameter =>
      "Output parameter " ++ placeholder parameter ++ " is not produced by any template"
  | unresolved parameter =>
      "Parameter " ++ placeholder parameter ++ " is neither an input nor produced by any template"
  | cycle parameters =>
      "Circular dependency between parameters: "
        ++ Text.join " -> " (parameters.map placeholder)
  | unknownPersona template persona =>
      "Template " ++ quoted template ++ " uses unknown persona " ++ quoted persona
  | unknownSource template source =>
      "Template " ++ quoted template ++ " uses unknown knowledge source " ++ quoted source

/-- The wording of a violation. -/
def message (v : Violation) : String := "[" ++ v.code ++ "] " ++ v.explanation

/-- Whether a violation is about a parameter. -/
def mentions (name : String) : Violation → Bool
  | parameterTwice parameter | reservedParameter parameter | undefinedParameter _ parameter
  | resultNotDeclared _ parameter | severalProducers parameter _ | inputProduced parameter _
  | outputNotProduced parameter | unresolved parameter => parameter == name
  | cycle parameters => parameters.contains name
  | _ => false

/-- The wording of all violations of a pipeline. -/
def summary (violations : List Violation) : String :=
  "Pipeline is invalid (" ++ toString violations.length ++ " problems):"
    ++ String.join (violations.map fun v => "\n- " ++ v.message)

end Violation

end PromptPipeline
