/-
# Markdown.Block -- the blocks of a document

A document is a tree of blocks: containers hold blocks, leaves hold text.  The text
of paragraphs and headings is read only when the whole document is known, since a
link can be defined after it is used.
-/
import PromptPipeline.Markdown.Inline

namespace PromptPipeline.Markdown

set_option autoImplicit false

/-- A block that holds no other blocks.  The info text of a code block is missing if
it has no fence. -/
inductive Leaf
  | paragraph (text : List Char)
  | heading (level : Nat) (text : List Char)
  | code (info : Option String) (content : List Char)
  | rule
  | html
deriving Repr, DecidableEq

/-- A block that holds blocks.  In a tight list no blank line separates the items or
the blocks of an item. -/
inductive Container
  | quote
  | list (tight : Bool)
  | item
deriving Repr, DecidableEq

/-- A block with the byte where it starts. -/
inductive Block
  | leaf (kind : Leaf) (offset : Nat)
  | container (kind : Container) (offset : Nat) (blocks : List Block)
deriving Repr

/-- The events of a leaf.  A bare paragraph is only its text. -/
def Leaf.events (definitions : List Link.Definition) (bare : Bool) (offset : Nat) :
    Leaf → List Event
  | paragraph text =>
      let inner := Inline.events definitions text
      if bare then inner else Event.wrap .paragraph offset inner
  | heading level text => Event.wrap (.heading level) offset (Inline.events definitions text)
  | code info content => Event.wrap (.codeBlock info) offset [.text content]
  | rule | html => []

mutual

/-- The events of a block; the paragraphs in a tight list are bare. -/
def Block.events (definitions : List Link.Definition) (bare : Bool) : Block → List Event
  | .leaf kind offset => kind.events definitions bare offset
  | .container .quote offset blocks =>
      Event.wrap .quote offset (Block.eventsOf definitions false blocks)
  | .container (.list tight) offset blocks =>
      Event.wrap .list offset (Block.eventsOf definitions tight blocks)
  | .container .item offset blocks =>
      Event.wrap .item offset (Block.eventsOf definitions bare blocks)

/-- The events of blocks, one after the other. -/
def Block.eventsOf (definitions : List Link.Definition) (bare : Bool) : List Block → List Event
  | [] => []
  | block :: rest => block.events definitions bare ++ Block.eventsOf definitions bare rest

end

/-- A document: its blocks and the links that it defines. -/
structure Tree where
  blocks : List Block
  definitions : List Link.Definition
deriving Repr

/-- The events of a document. -/
def Tree.events (t : Tree) : List Event := Block.eventsOf t.definitions false t.blocks

end PromptPipeline.Markdown
