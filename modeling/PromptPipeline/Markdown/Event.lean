/-
# Markdown.Event -- a marked up text as a stream of events

What stands in a document is told in reading order.  A construct that holds others
is entered and left; text, code spans and line breaks stand between.
-/

namespace PromptPipeline.Markdown

set_option autoImplicit false

/-- A construct that holds other constructs or text.  A code block has its info
text if it is fenced, and a link has its target. -/
inductive Tag
  | paragraph
  | heading (level : Nat)
  | codeBlock (info : Option String)
  | quote
  | list
  | item
  | emphasis
  | strong
  | link (target : String)
  | image
deriving Repr, DecidableEq

/-- What is met when a document is read.  A construct is entered at the byte where
it starts in the source. -/
inductive Event
  | enter (tag : Tag) (offset : Nat)
  | leave (tag : Tag)
  | text (chars : List Char)
  | code (chars : List Char)
  | lineBreak
deriving Repr, DecidableEq

namespace Event

/-- The events of a construct with `inner` in it. -/
def wrap (tag : Tag) (offset : Nat) (inner : List Event) : List Event :=
  enter tag offset :: (inner ++ [leave tag])

end Event

end PromptPipeline.Markdown
