/-
# Grammar.Error -- why a line is no command, or a command does not apply

Errors are causes; `ParseError.message` is the only place with their wording.
-/
import PromptPipeline.Command.Basic
import PromptPipeline.Name.Basic
import PromptPipeline.Text.Quoted
import PromptPipeline.Url.Basic

namespace PromptPipeline

set_option autoImplicit false

open Text (quoted)

/-- A text between braces, as placeholders are written. -/
def braced (name : String) : String := "\x7b" ++ name ++ "\x7d"

/-! ## Arguments -/

/-- What is wrong with the arguments of a command. -/
inductive ArgumentFault
  | notOneArgument (command : String) (given : Nat)
  | invalidUrl (url : String) (fault : Url.Fault)
  | urlNotHttps (url : String)
  | invalidVersion (version : String)
  | noParameterName
  | inputAndOutput (name : String)
  | unknownExecution (words : String)
  | noModelKey
  | unknownModelKey (key : String)
  | variantNotKnown (words : String)
  | unknownVariant (value : String)
  | notOneModelName
  | noPersonaName
  | noSource
  | sourceNotHttps (source : String)
  | invalidSourceUrl (source : String) (fault : Url.Fault)
  | unknownSign (word : String)
  | invalidAmount (word : String)
  | unknownUnit (word : String)
  | unknownExpectation (line : String)
  | invalidFunction (name : String)
  | noIterationFormat
  | unsupportedCell (format : IterationFormat) (word : String)
  | noArrow
  | noIterationParameter
deriving Repr, DecidableEq

namespace ArgumentFault

/-- The command whose arguments are wrong. -/
def command : ArgumentFault → String
  | notOneArgument command _ => command
  | invalidUrl .. | urlNotHttps _ => "PROMPTBOOK_URL"
  | invalidVersion _ => "PROMPTBOOK_VERSION"
  | noParameterName | inputAndOutput _ => "PARAMETER"
  | unknownExecution _ => "EXECUTE"
  | noModelKey | unknownModelKey _ | variantNotKnown _ | unknownVariant _ | notOneModelName =>
      "MODEL"
  | noPersonaName => "PERSONA"
  | noSource | sourceNotHttps _ | invalidSourceUrl .. => "KNOWLEDGE"
  | unknownSign _ | invalidAmount _ | unknownUnit _ | unknownExpectation _ => "EXPECT"
  | invalidFunction _ => "POSTPROCESS"
  | noIterationFormat | unsupportedCell .. | noArrow | noIterationParameter => "FOREACH"

/-- The wording of a fault. -/
def message : ArgumentFault → String
  | notOneArgument _ given =>
      "requires exactly one argument, "
        ++ (if given = 0 then "none" else toString given) ++ " given"
  | invalidUrl url fault => "Invalid URL " ++ quoted url ++ ": " ++ fault.message
  | urlNotHttps url => "URL must use https, got " ++ quoted url
  | invalidVersion version => quoted version ++ " is not a valid semantic version"
  | noParameterName => "requires a parameter name"
  | inputAndOutput name => braced name ++ " can not be both input and output"
  | unknownExecution words =>
      "Unknown execution type " ++ quoted words ++ ", expected one of: "
        ++ Text.join ", " (Execution.all.map Execution.phrase)
  | noModelKey => "requires VARIANT or NAME"
  | unknownModelKey key => "Unknown model key " ++ quoted key ++ ", expected VARIANT or NAME"
  | variantNotKnown words =>
      "Unknown model variant " ++ quoted words ++ ", expected Completion, Chat or Embedding"
  | unknownVariant value => "Unknown model variant " ++ quoted value
  | notOneModelName => "MODEL NAME requires exactly one model name"
  | noPersonaName => "requires a persona name"
  | noSource => "requires a source"
  | sourceNotHttps source => "source URL must use https, got " ++ quoted source
  | invalidSourceUrl source fault => "Invalid URL " ++ quoted source ++ ": " ++ fault.message
  | unknownSign word =>
      "Unknown expectation sign " ++ quoted word ++ ", expected MIN, MAX or EXACTLY"
  | invalidAmount word => "Invalid amount " ++ quoted word
  | unknownUnit word => "Unknown expectation unit " ++ quoted word
  | unknownExpectation line =>
      "expected `EXPECT MIN|MAX|EXACTLY <amount> <unit>` or `EXPECT JSON`, got " ++ quoted line
  | invalidFunction name => quoted name ++ " is not a valid function name"
  | noIterationFormat => "FOREACH command must have 'LIST' or 'CSV' as the first argument"
  | unsupportedCell format word =>
      "Format " ++ format.word ++ " does not support cell \"" ++ word ++ "\""
  | noArrow => "FOREACH command must have '->' to assign the value to the parameter"
  | noIterationParameter => "FOREACH command must end with exactly one parameter name"

end ArgumentFault

/-! ## Conflicts -/

/-- How a command contradicts an earlier one. -/
inductive Conflict
  | parameterTwice (name : String)
  | execution (title : String) (current new : Execution)
  | requirement (title : String) (key : ModelKey) (existing value : String)
  | persona (title existing new : String)
  | source (existing new name : String)
  | bound (isUpper : Bool) (unit : AmountUnit) (existing amount : UInt32)
  | crossedBounds (unit : AmountUnit) (min max : UInt32)
  | format (existing new : ResultFormat)
deriving Repr, DecidableEq

namespace Conflict

/-- The command that conflicts. -/
def command : Conflict → String
  | parameterTwice _ => "PARAMETER"
  | execution .. => "EXECUTE"
  | requirement .. => "MODEL"
  | persona .. => "PERSONA"
  | source .. => "KNOWLEDGE"
  | bound .. | crossedBounds .. | format .. => "EXPECT"

/-- The wording of a conflict. -/
def message : Conflict → String
  | parameterTwice name => "parameter " ++ braced name ++ " is declared more than once"
  | execution title current new =>
      "template " ++ quoted title ++ " is already executed as " ++ current.word
        ++ ", can not change it to " ++ new.word
  | requirement title key existing value =>
      "template " ++ quoted title ++ " already requires " ++ key.word ++ " " ++ existing
        ++ ", can not also require " ++ value
  | persona title existing new =>
      "template " ++ quoted title ++ " already speaks as " ++ existing
        ++ ", can not also speak as " ++ new
  | source existing new name =>
      "sources " ++ quoted existing ++ " and " ++ quoted new ++ " both resolve to the name " ++ name
  | bound isUpper unit existing amount =>
      (if isUpper then "maximum of " else "minimum of ") ++ unit.word ++ " is already "
        ++ toString existing.toNat ++ ", can not redefine it to " ++ toString amount.toNat
  | crossedBounds unit min max =>
      "minimum " ++ toString min.toNat ++ " " ++ unit.word ++ " is greater than maximum "
        ++ toString max.toNat ++ " " ++ unit.word
  | format existing new =>
      "template already expects " ++ existing.word ++ ", can not also expect " ++ new.word

end Conflict

/-! ## Documents and grammars -/

/-- How a document breaks the conventions on its structure. -/
inductive StructureFault
  | secondCodeBlock (title : String)
  | resultInHead
  | secondResult (title : String)
deriving Repr, DecidableEq

/-- The wording of a fault. -/
def StructureFault.message : StructureFault → String
  | .secondCodeBlock title => "template " ++ quoted title ++ " can have only one code block"
  | .resultInHead => "resulting parameter can only be declared inside a template"
  | .secondResult title =>
      "template " ++ quoted title ++ " declares its resulting parameter more than once"

/-- Why directives do not form a grammar, or a grammar lacks a command. -/
inductive GrammarFault
  | unusable (directive : String)
  | emptyKeyword (directive : String)
  | keywordTwice (keyword first second : String)
  | producedTwice (kind : Command.Kind) (first second : String)
  | noDirective (kind : Command.Kind)
deriving Repr, DecidableEq

/-- The wording of a fault. -/
def GrammarFault.message : GrammarFault → String
  | .unusable directive => "command " ++ directive ++ " is not usable anywhere"
  | .emptyKeyword directive => "command " ++ directive ++ " has an empty name or alias"
  | .keywordTwice keyword first second =>
      "keyword " ++ keyword ++ " is claimed by both " ++ first ++ " and " ++ second
  | .producedTwice kind first second =>
      "command type " ++ kind.word ++ " is produced by both " ++ first ++ " and " ++ second
  | .noDirective kind => "no parser registered for " ++ kind.word

/-! ## All errors -/

/-- Why a line is no command, a command does not apply or a document has no
sections. -/
inductive ParseError
  | newLine (line : String)
  | malformed (line : String)
  | unknownCommand (line : String)
  | notAllowedHere (directive : String) (place : Place) (line : String)
  | invalidArguments (fault : ArgumentFault)
  | invalidName (refusal : Name.Refusal)
  | conflict (clash : Conflict)
  | notImplemented (directive operation : String)
  | wrongCommand (directive : String) (found : Command.Kind)
  | document (line : Nat) (fault : StructureFault)
  | grammar (fault : GrammarFault)
deriving Repr, DecidableEq

namespace ParseError

/-- The wording of an error. -/
def message : ParseError → String
  | newLine line => "Can not contain new line: " ++ quoted line
  | malformed line => "Malformed command: " ++ quoted line
  | unknownCommand line => "Malformed or unknown command: " ++ quoted line
  | notAllowedHere directive place line =>
      "Command " ++ directive ++ " is not allowed in " ++ place.word ++ ": " ++ quoted line
  | invalidArguments fault => "Invalid " ++ fault.command ++ " command: " ++ fault.message
  | invalidName refusal => refusal.message
  | conflict clash => "Conflicting " ++ clash.command ++ " command: " ++ clash.message
  | notImplemented directive operation =>
      "Not implemented: " ++ operation ++ " of " ++ directive ++ " command is not available yet"
  | wrongCommand directive found =>
      "Command " ++ found.word ++ " can not be handled by the " ++ directive ++ " parser"
  | document line fault =>
      "Markdown structure error at line " ++ toString line ++ ": " ++ fault.message
  | grammar fault => "Command registry error: " ++ fault.message

/-- Whether the error marks a command without behaviour. -/
def isNotImplemented : ParseError → Bool
  | notImplemented .. => true
  | _ => false

end ParseError

end PromptPipeline
