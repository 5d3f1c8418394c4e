/-
# Document.Basic -- the sections of a pipeline document

A document has a head and a section for each template.  A section has command
lines, code blocks, prose and the parameter that it results in, each still as
text.
-/

namespace PromptPipeline

set_option autoImplicit false

/-- A list item, which may be a command, with its line in the source. -/
structure CommandLine where
  text : String
  line : Nat
deriving Repr, DecidableEq

/-- A code block; its language is the first word after an opening fence. -/
structure CodeBlock where
  language : Option String
  content : String
  line : Nat
deriving Repr, DecidableEq

/-- The head or one template.  The line is that of the heading. -/
structure Section where
  title : String := ""
  line : Nat := 1
  description : Option String := none
  commands : List CommandLine := []
  code : List CodeBlock := []
  result : Option String := none
deriving Repr, DecidableEq, Inhabited

/-- A document split into its sections; the title is its first heading of level 1. -/
structure Document where
  title : Option String
  head : Section
  templates : List Section
deriving Repr, DecidableEq

end PromptPipeline
