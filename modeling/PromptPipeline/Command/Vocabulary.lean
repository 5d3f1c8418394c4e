/-
# Command.Vocabulary -- the closed vocabularies of command arguments

Every type here has a canonical word and is read back from it in any spelling
that `Keyword.canonical` identifies.
-/
import PromptPipeline.Keyword

namespace PromptPipeline

set_option autoImplicit false

/-! ## Places -/

/-- Where a command may stand: before the first template heading or in a template. -/
inductive Place
  | head
  | template
deriving Repr, DecidableEq, Inhabited

namespace Place

/-- Both places. -/
def all : List Place := [head, template]

/-- The word for a place. -/
def word : Place → String
  | head => "PIPELINE_HEAD"
  | template => "PIPELINE_TEMPLATE"

/-- The place of exactly that word. -/
def ofWord? (s : String) : Option Place := all.find? (·.word == s)

end Place

/-! ## Execution -/

/-- How a template is executed: a prompt to a model, plain interpolation, a script
or a question to the user. -/
inductive Execution
  | promptTemplate
  | simpleTemplate
  | script
  | promptDialog
deriving Repr, DecidableEq

instance : Inhabited Execution := ⟨.promptTemplate⟩

namespace Execution

/-- All kinds of execution. -/
def all : List Execution := [promptTemplate, simpleTemplate, script, promptDialog]

/-- The canonical word. -/
def word : Execution → String
  | promptTemplate => "PROMPT_TEMPLATE"
  | simpleTemplate => "SIMPLE_TEMPLATE"
  | script => "SCRIPT"
  | promptDialog => "PROMPT_DIALOG"

/-- The words in lower case, apart by spaces. -/
def phrase : Execution → String
  | promptTemplate => "prompt template"
  | simpleTemplate => "simple template"
  | script => "script"
  | promptDialog => "prompt dialog"

/-- The words in upper case, apart by spaces. -/
def capitals : Execution → String
  | promptTemplate => "PROMPT TEMPLATE"
  | simpleTemplate => "SIMPLE TEMPLATE"
  | script => "SCRIPT"
  | promptDialog => "PROMPT DIALOG"

/-- The execution that a keyword names. -/
def ofKeyword? (s : String) : Option Execution := all.find? (·.word == Keyword.canonical s)

end Execution

/-! ## Models -/

/-- The kind of model that a template needs. -/
inductive ModelVariant
  | completion
  | chat
  | embedding
deriving Repr, DecidableEq, Inhabited

namespace ModelVariant

/-- All variants. -/
def all : List ModelVariant := [completion, chat, embedding]

/-- The canonical word. -/
def word : ModelVariant → String
  | completion => "COMPLETION"
  | chat => "CHAT"
  | embedding => "EMBEDDING"

/-- The word as it is written in a document. -/
def title : ModelVariant → String
  | completion => "Completion"
  | chat => "Chat"
  | embedding => "Embedding"

/-- The variant that a keyword names. -/
def ofKeyword? (s : String) : Option ModelVariant := all.find? (·.word == Keyword.canonical s)

end ModelVariant

/-- Which requirement on the model is set: its variant or its name. -/
inductive ModelKey
  | variant
  | name
deriving Repr, DecidableEq, Inhabited

namespace ModelKey

/-- Both keys. -/
def all : List ModelKey := [variant, name]

/-- The word that follows `MODEL` in a document. -/
def word : ModelKey → String
  | variant => "VARIANT"
  | name => "NAME"

end ModelKey

/-! ## Expectations -/

/-- What the amount of an expectation counts. -/
inductive AmountUnit
  | characters
  | words
  | sentences
  | lines
  | paragraphs
  | pages
deriving Repr, DecidableEq, Inhabited

namespace AmountUnit

/-- All units, in the order in which expectations are listed. -/
def all : List AmountUnit := [characters, words, sentences, lines, paragraphs, pages]

/-- The canonical word, in the plural. -/
def word : AmountUnit → String
  | characters => "CHARACTERS"
  | words => "WORDS"
  | sentences => "SENTENCES"
  | lines => "LINES"
  | paragraphs => "PARAGRAPHS"
  | pages => "PAGES"

/-- The canonical word in the singular. -/
def singular : AmountUnit → String
  | characters => "CHARACTER"
  | words => "WORD"
  | sentences => "SENTENCE"
  | lines => "LINE"
  | paragraphs => "PARAGRAPH"
  | pages => "PAGE"

/-- The unit that a keyword names, in the singular or the plural. -/
def ofKeyword? (s : String) : Option AmountUnit :=
  let keyword := Keyword.canonical s
  all.find? fun unit => unit.word == keyword || unit.singular == keyword

end AmountUnit

/-- Which side of an amount is bounded. -/
inductive BoundSign
  | minimum
  | maximum
  | exactly
deriving Repr, DecidableEq, Inhabited

namespace BoundSign

/-- All signs. -/
def all : List BoundSign := [minimum, maximum, exactly]

/-- The canonical word. -/
def word : BoundSign → String
  | minimum => "MIN"
  | maximum => "MAX"
  | exactly => "EXACTLY"

/-- The words that a sign is read from. -/
def spellings : BoundSign → List String
  | minimum => ["MIN", "MINIMUM", "MINIMALLY"]
  | maximum => ["MAX", "MAXIMUM", "MAXIMALLY"]
  | exactly => ["EXACTLY", "EXACT"]

/-- The sign that a keyword names. -/
def ofKeyword? (s : String) : Option BoundSign :=
  all.find? (·.spellings.contains (Keyword.canonical s))

/-- Whether the sign bounds an amount from below. -/
def boundsBelow : BoundSign → Bool
  | maximum => false
  | _ => true

/-- Whether the sign bounds an amount from above. -/
def boundsAbove : BoundSign → Bool
  | minimum => false
  | _ => true

end BoundSign

/-- The format that a result must have. -/
inductive ResultFormat
  | json
deriving Repr, DecidableEq, Inhabited

/-- The canonical word. -/
def ResultFormat.word : ResultFormat → String
  | .json => "JSON"

/-! ## Iteration -/

/-- What a template is repeated over. -/
inductive IterationFormat
  | list
  | csv
deriving Repr, DecidableEq, Inhabited

namespace IterationFormat

/-- All formats. -/
def all : List IterationFormat := [list, csv]

/-- The canonical word. -/
def word : IterationFormat → String
  | list => "LIST"
  | csv => "CSV"

/-- The format that a keyword names. -/
def ofKeyword? (s : String) : Option IterationFormat := all.find? (·.word == Keyword.canonical s)

end IterationFormat

/-- The part of the format that one repetition takes. -/
inductive IterationCell
  | line
  | row
  | column
  | cell
deriving Repr, DecidableEq, Inhabited

namespace IterationCell

/-- All cells. -/
def all : List IterationCell := [line, row, column, cell]

/-- The canonical word. -/
def word : IterationCell → String
  | line => "LINE"
  | row => "ROW"
  | column => "COLUMN"
  | cell => "CELL"

/-- The cell that a keyword names. -/
def ofKeyword? (s : String) : Option IterationCell := all.find? (·.word == Keyword.canonical s)

end IterationCell

end PromptPipeline
