/-
# Compile.Error -- why a document does not compile

Also why a set of pipelines is no collection and a file can not be read.
-/
import PromptPipeline.Grammar.Error
import PromptPipeline.Validation.Violation
import PromptPipeline.Json.Decode

namespace PromptPipeline

set_option autoImplicit false

open Text (quoted)

/-- A part of a document. -/
inductive Part
  | head
  | template (title : String)
deriving Repr, DecidableEq

/-- How a part is called. -/
def Part.label : Part → String
  | .head => "Pipeline head"
  | .template title => "Template " ++ quoted title

/-- What a template section lacks. -/
inductive TemplateFault
  | notOneCodeBlock
  | noResult
  | invalidResult (refusal : Name.Refusal)
deriving Repr, DecidableEq

/-- The wording of a fault. -/
def TemplateFault.message : TemplateFault → String
  | .notOneCodeBlock => "template must contain exactly one code block"
  | .noResult =>
      "template must declare its resulting parameter with `-> \x7bparameterName\x7d`"
  | .invalidResult refusal => refusal.message

/-- Why pipelines form no collection, or one is not in it. -/
inductive CollectionFault
  | noUrl (title : String)
  | urlTwice (url : String)
  | notFound (url : String) (available : List String)
deriving Repr, DecidableEq

/-- The wording of a fault. -/
def CollectionFault.message : CollectionFault → String
  | .noUrl title => "pipeline " ++ quoted title ++ " has no PROMPTBOOK URL"
  | .urlTwice url => "pipeline URL " ++ url ++ " is used more than once"
  | .notFound url available =>
      "pipeline " ++ url ++ " not found, available: " ++ Text.join ", " available

/-- Why there is no pipeline, or no collection. -/
inductive CompileError
  | command (part : Part) (line : Nat) (error : ParseError)
  | document (error : ParseError)
  | template (title : String) (line : Nat) (fault : TemplateFault)
  | headCodeBlock (line : Nat)
  | invalid (violations : List Violation)
  | json (error : Json.Error)
  | options
  | collection (file : Option String) (fault : CollectionFault)
  | unreadable (path : String) (reason : String)
deriving Repr, DecidableEq

namespace CompileError

/-- The wording of an error. -/
def message : CompileError → String
  | command part line error => part.label ++ " (line " ++ toString line ++ "): " ++ error.message
  | document error => error.message
  | template title line fault =>
      "Template " ++ quoted title ++ " (line " ++ toString line ++ "): " ++ fault.message
  | headCodeBlock line => "Code block at line " ++ toString line ++ " is outside of any template"
  | invalid violations => Violation.summary violations
  | json error => "Serialization error: " ++ error.message
  | options => "Invalid compiler options"
  | collection none fault => "Collection error: " ++ fault.message
  | collection (some file) fault => "Collection error: " ++ file ++ ": " ++ fault.message
  | unreadable path reason => "Failed to read " ++ quoted path ++ ": " ++ reason

/-- The error of a command, if compiling stopped at one. -/
def parseError? : CompileError → Option ParseError
  | command _ _ error => some error
  | document error => some error
  | _ => none

end CompileError

end PromptPipeline
