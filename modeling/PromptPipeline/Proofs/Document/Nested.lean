/-
# Proofs.Document.Nested -- a document as nested constructs

The events of a document come one after another.  Here they are a tree (`Nested`), of which
the events are the traversal; which constructs stand in which is the content model (`fits`).

What stands in the sections is read off the tree: a heading of level 2, an outermost list
item and a code block are an entry each (`entries`), and the entries are divided at the
headings (`divide`).  Nothing has to be kept in mind for this but the text of an item so
far (`itemText`).
-/
import PromptPipeline.Document.Extract

namespace PromptPipeline

set_option autoImplicit false

/-- A section without what its prose says, the description and the result. -/
def Section.outline (s : Section) : Section := { s with description := none, result := none }

namespace Document

open Markdown (Event Tag)

/-! ## Nested constructs -/

/-- What stands in a document one after another, with what stands in each construct. -/
inductive Nested
  | done
  | text (chars : List Char) (rest : Nested)
  | code (chars : List Char) (rest : Nested)
  | lineBreak (rest : Nested)
  | within (tag : Tag) (offset : Nat) (inner rest : Nested)
deriving Repr, DecidableEq

/-- What may stand in a construct: blocks in a document and in a quote, items in a list,
both blocks and inline text in an item, as its list may be tight, and only text in a code
block. -/
inductive Content
  | blocks
  | items
  | flow
  | inlines
  | plain
deriving Repr, DecidableEq

namespace Content

/-- What may stand in a construct of a kind. -/
def of : Tag → Content
  | .list => .items
  | .item => .flow
  | .quote => .blocks
  | .codeBlock _ => .plain
  | .paragraph | .heading _ | .emphasis | .strong | .link _ | .image => .inlines

/-- Whether a construct may stand there. -/
def allows : Content → Tag → Bool
  | .items, .item => true
  | .blocks, .paragraph | .blocks, .heading _ | .blocks, .codeBlock _ | .blocks, .quote
  | .blocks, .list => true
  | .flow, .item => false
  | .flow, _ => true
  | .inlines, .emphasis | .inlines, .strong | .inlines, .link _ | .inlines, .image => true
  | _, _ => false

/-- Whether text may stand there. -/
def allowsText : Content → Bool
  | .flow | .inlines | .plain => true
  | _ => false

/-- Whether code spans and line breaks may stand there. -/
def allowsSpans : Content → Bool
  | .flow | .inlines => true
  | _ => false

end Content

namespace Nested

/-- The events of what is nested. -/
def events : Nested → List Event
  | done => []
  | text chars rest => .text chars :: rest.events
  | code chars rest => .code chars :: rest.events
  | lineBreak rest => .lineBreak :: rest.events
  | within tag offset inner rest => Event.wrap tag offset inner.events ++ rest.events

/-- Whether everything stands where it may. -/
def fits (content : Content) : Nested → Bool
  | done => true
  | text _ rest => content.allowsText && rest.fits content
  | code _ rest | lineBreak rest => content.allowsSpans && rest.fits content
  | within tag _ inner rest => content.allows tag && inner.fits (.of tag) && rest.fits content

/-- Whether no heading stands in it. -/
def headless : Nested → Bool
  | done => true
  | text _ rest | code _ rest | lineBreak rest => rest.headless
  | within (.heading _) _ _ _ => false
  | within _ _ inner rest => inner.headless && rest.headless

/-- Whether no heading stands in a list item. -/
def plainItems : Nested → Bool
  | done => true
  | text _ rest | code _ rest | lineBreak rest => rest.plainItems
  | within .item _ inner rest => inner.headless && rest.plainItems
  | within _ _ inner rest => inner.plainItems && rest.plainItems

/-! ## What stands in it -/

/-- The text in it, without any markup. -/
def plainText : Nested → List Char
  | done => []
  | text chars rest | code chars rest => chars ++ rest.plainText
  | lineBreak rest => '\n' :: rest.plainText
  | within _ _ inner rest => inner.plainText ++ rest.plainText

/-- The code block of an info text, without the line end after its last line. -/
def codeBlock (info : Option String) (content : List Char) (line : Nat) : CodeBlock where
  language := Extraction.languageOf info
  content := String.ofList (if content.getLast? = some '\n' then content.dropLast else content)
  line := line

/-- The code blocks in it, at any depth. -/
def codes (starts : List Nat) : Nested → List CodeBlock
  | done => []
  | text _ rest | code _ rest | lineBreak rest => rest.codes starts
  | within (.codeBlock info) offset inner rest =>
      codeBlock info inner.plainText (lineAt starts offset) :: rest.codes starts
  | within _ _ inner rest => inner.codes starts ++ rest.codes starts

/-- The text of an item that goes on with it: code spans in backticks, a line for each item
and, behind text, for each paragraph, and nothing of code blocks. -/
def itemText (soFar : List Char) : Nested → List Char
  | done => soFar
  | text chars rest => rest.itemText (soFar ++ chars)
  | code chars rest => rest.itemText (soFar ++ '\x60' :: (chars ++ ['\x60']))
  | lineBreak rest => rest.itemText (soFar ++ ['\n'])
  | within (.codeBlock _) _ _ rest => rest.itemText soFar
  | within .item _ inner rest => rest.itemText (inner.itemText (soFar ++ ['\n']))
  | within .paragraph _ inner rest =>
      rest.itemText
        (inner.itemText (if soFar.all Unicode.isBlank then soFar else soFar ++ ['\n']))
  | within _ _ inner rest => rest.itemText (inner.itemText soFar)

/-- The command line of an item, unless its text is blank. -/
def command? (text : List Char) (line : Nat) : Option CommandLine :=
  match Text.strip Unicode.isBlank text with
  | [] => none
  | stripped => some ⟨String.ofList stripped, line⟩

end Nested

/-- What makes up the sections of a document. -/
inductive Entry
  | template (title : String) (line : Nat)
  | command (line : CommandLine)
  | code (block : CodeBlock)
deriving Repr, DecidableEq

namespace Nested

/-- What makes up the sections of a document, in its order: the headings of level 2, the
outermost items and the code blocks. -/
def entries (starts : List Nat) : Nested → List Entry
  | done => []
  | text _ rest | code _ rest | lineBreak rest => rest.entries starts
  | within (.heading level) offset inner rest =>
      (if level = 2 then
        [.template (String.ofList (Text.strip Unicode.isBlank inner.plainText))
          (lineAt starts offset)]
      else []) ++ rest.entries starts
  | within (.codeBlock info) offset inner rest =>
      .code (codeBlock info inner.plainText (lineAt starts offset)) :: rest.entries starts
  | within .item offset inner rest =>
      (inner.codes starts).map .code
        ++ (command? (inner.itemText []) (lineAt starts offset)).toList.map .command
        ++ rest.entries starts
  | within _ _ inner rest => inner.entries starts ++ rest.entries starts

end Nested

/-- The sections that entries make up from one that is begun; each template begins
another. -/
def divide (s : Section) : List Entry → List Section
  | [] => [s]
  | .template title line :: rest => s :: divide { title := title, line := line } rest
  | .command line :: rest => divide { s with commands := s.commands ++ [line] } rest
  | .code block :: rest => divide { s with code := s.code ++ [block] } rest

end Document

end PromptPipeline
