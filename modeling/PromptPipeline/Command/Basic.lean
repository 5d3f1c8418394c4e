/-
# Command.Basic -- commands

A command is one list item of a pipeline document in typed form.  Commands are
plain data: a directive reads them from a line, and applying one changes the
pipeline or the template under construction.
-/
import PromptPipeline.Command.Vocabulary

namespace PromptPipeline

set_option autoImplicit false

/-- One command. -/
inductive Command
  | url (url : String)
  | version (version : String)
  | parameter (name : String) (description : Option String) (isInput isOutput : Bool)
  | execute (execution : Execution)
  | model (key : ModelKey) (value : String)
  | persona (name : String) (description : Option String)
  | knowledge (source : String)
  | expectAmount (sign : BoundSign) (unit : AmountUnit) (amount : UInt32)
  | expectFormat (format : ResultFormat)
  | postprocess (function : String)
  | joker (name : String)
  | iterate (format : IterationFormat) (part : IterationCell) (name : String)
deriving Repr, DecidableEq, Inhabited

namespace Command

/-- The kinds of command. -/
inductive Kind
  | url
  | version
  | parameter
  | execute
  | model
  | persona
  | knowledge
  | expectAmount
  | expectFormat
  | postprocess
  | joker
  | iterate
deriving Repr, DecidableEq, Inhabited

namespace Kind

/-- All kinds. -/
def all : List Kind :=
  [url, version, parameter, execute, model, persona, knowledge, expectAmount, expectFormat,
    postprocess, joker, iterate]

/-- The word for a kind. -/
def word : Kind → String
  | url => "PROMPTBOOK_URL"
  | version => "PROMPTBOOK_VERSION"
  | parameter => "PARAMETER"
  | execute => "EXECUTE"
  | model => "MODEL"
  | persona => "PERSONA"
  | knowledge => "KNOWLEDGE"
  | expectAmount => "EXPECT_AMOUNT"
  | expectFormat => "EXPECT_FORMAT"
  | postprocess => "POSTPROCESS"
  | joker => "JOKER"
  | iterate => "FOREACH"

/-- The kind of exactly that word. -/
def ofWord? (s : String) : Option Kind := all.find? (·.word == s)

end Kind

/-- The kind of a command. -/
def kind : Command → Kind
  | url _ => .url
  | version _ => .version
  | parameter .. => .parameter
  | execute _ => .execute
  | model .. => .model
  | persona .. => .persona
  | knowledge _ => .knowledge
  | expectAmount .. => .expectAmount
  | expectFormat _ => .expectFormat
  | postprocess _ => .postprocess
  | joker _ => .joker
  | iterate .. => .iterate

end Command

end PromptPipeline
