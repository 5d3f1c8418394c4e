/-
# Directive.Basic -- what a command of the language is made of

A directive says how one command is written, where it may stand and what it does:
it reads the command from the tokens of a line and writes it back, applies it to
the pipeline or the template under construction, and takes the commands back out
of a finished one.

An `Edit` that is refused tells the error and the state it left behind, which is
the state before unless the edit had begun.
-/
import PromptPipeline.Grammar.Token
import PromptPipeline.Grammar.Error
import PromptPipeline.Notice
import PromptPipeline.Pipeline.Basic

namespace PromptPipeline

set_option autoImplicit false

/-! ## Reading -/

/-- What a directive reads: the trimmed line, the keyword that matched in its
canonical spelling, and the tokens after it. -/
structure Arguments where
  line : String
  keyword : String
  tokens : List Grammar.Token
deriving Repr

namespace Arguments

/-- The texts of the tokens. -/
def words (a : Arguments) : List String := a.tokens.map (·.text)

/-- The source text from one argument to the end of the line, with its backticks
and trimmed; empty if there are not as many arguments. -/
def sourceFrom (a : Arguments) (index : Nat) : String :=
  match a.tokens[index]? with
  | some token => Text.trim (String.ofList (a.line.toList.drop token.start))
  | none => ""

/-- The argument of a command that has exactly one. -/
def single (a : Arguments) (command : String) : Except ParseError String :=
  match a.words with
  | [word] => .ok word
  | words => .error (.invalidArguments (.notOneArgument command words.length))

end Arguments

/-! ## Applying -/

/-- A template under construction with the pipeline that it will join. -/
structure Draft where
  template : Template
  pipeline : Pipeline
deriving DecidableEq

/-- An edit that was refused: why, and the state that it left. -/
structure Refused (σ : Type) where
  error : ParseError
  left : σ

/-- A change of state that may be refused. -/
abbrev Edit (σ : Type) := σ → Logged (Refused σ) σ

/-- Refuse with the state as it is. -/
def refuse {σ : Type} (error : ParseError) : Edit σ := fun s => .error ⟨error, s⟩

/-- An edit of the pipeline, made from a draft. -/
def Edit.onPipeline (edit : Edit Pipeline) : Edit Draft := fun d =>
  let r := edit d.pipeline
  match r.value with
  | .ok pipeline => ⟨r.notices, .ok { d with pipeline := pipeline }⟩
  | .error refused => ⟨r.notices, .error ⟨refused.error, { d with pipeline := refused.left }⟩⟩

/-! ## Directives -/

/-- One entry of the grammar.  Names and aliases have their words joined by
underscores.  `onHead` and `onTemplate` are absent where the command does nothing
in that place, `fromHead` and `fromTemplate` where nothing can be taken back. -/
structure Directive where
  name : String
  aliases : List String
  places : List Place
  description : String
  documentation : String
  examples : List String
  produces : List Command.Kind
  parse : Arguments → Except ParseError Command
  write : Command → Except ParseError String
  onHead : Option (Command → Edit Pipeline)
  onTemplate : Option (Command → Edit Draft)
  fromHead : Option (Pipeline → List Command)
  fromTemplate : Option (Draft → List Command)

namespace Directive

/-- The name followed by the aliases. -/
def keywords (d : Directive) : List String := d.name :: d.aliases

/-- Whether the command may stand in a place. -/
def isUsedIn (d : Directive) (place : Place) : Bool := d.places.contains place

/-- Where the commands of the language are discussed. -/
def documentationUrl : String := "https://github.com/webgptorg/promptbook/discussions"

end Directive

end PromptPipeline
