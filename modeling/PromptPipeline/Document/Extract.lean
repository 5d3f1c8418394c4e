/-
# Document.Extract -- the sections of a document

The events of a marked up text are told to an `Extraction`, which routes text to the
heading, the code block, the list item or the paragraph that is open.  A heading of
level 2 starts a template.  A paragraph that starts with an arrow names the
parameter in which a template results, if the arrow also stands in the source.
-/
import PromptPipeline.Document.Basic
import PromptPipeline.Grammar.Error
import PromptPipeline.Markdown.Reader

namespace PromptPipeline.Document

set_option autoImplicit false

open Markdown (Event Tag)

/-! ## Places in a source -/

/-- The bytes at which the lines of a source start that goes on at `offset`. -/
def startsAfter (offset : Nat) : List Char → List Nat
  | [] => []
  | c :: rest =>
      let next := offset + c.utf8Size
      if c = '\n' then next :: startsAfter next rest else startsAfter next rest

/-- The bytes at which the lines of a source start. -/
def lineStarts (source : List Char) : List Nat := 0 :: startsAfter 0 source

/-- What a search finds: the place of a number, or the place at which it is missing. -/
inductive Sought
  | found (place : Nat)
  | missing (place : Nat)
deriving Repr, DecidableEq

-- Semireducible, for the lines of a given source are to be evaluated.
/-- The search for a number among the ascending ones at the places from `low` to before
`high`; the one in the middle says in which half it goes on. -/
@[semireducible] def search (numbers : List Nat) (sought low high : Nat) : Sought :=
  if low < high then
    let middle := low + (high - low) / 2
    match compare (numbers.getD middle 0) sought with
    | .lt => search numbers sought (middle + 1) high
    | .gt => search numbers sought low middle
    | .eq => .found middle
  else .missing low
termination_by high - low

/-- The line, counted from one, in which a byte stands.  Where no line starts, it is the one
before the place at which a start is missing. -/
def lineAt (starts : List Nat) (offset : Nat) : Nat :=
  match search starts offset 0 starts.length with
  | .found place => place + 1
  | .missing place => place

/-- What follows the first `n` bytes of a text, if they are whole characters. -/
def dropBytes? : Nat → List Char → Option (List Char)
  | 0, s => some s
  | _ + 1, [] => none
  | n + 1, c :: rest => if c.utf8Size ≤ n + 1 then dropBytes? (n + 1 - c.utf8Size) rest else none

/-- Whether the text from a byte on starts with an arrow, after white space. -/
def hasArrowAt (source : List Char) (offset : Nat) : Bool :=
  (dropBytes? offset source).any fun rest =>
    ['-', '>'].isPrefixOf (Text.dropLeading Unicode.isBlank rest)

/-! ## What is open -/

/-- A heading whose text is being told. -/
structure OpenHeading where
  level : Nat
  text : List Char
  line : Nat
deriving Repr, DecidableEq

/-- A code block whose content is being told. -/
structure OpenCode where
  language : Option String
  content : List Char
  line : Nat
deriving Repr, DecidableEq

/-- A list item whose text is being told. -/
structure OpenItem where
  text : List Char
  line : Nat
deriving Repr, DecidableEq

/-- What has been told: the title, the sections before the current one, last first,
the current section and its prose, last paragraph first; the open heading, code
block, list item and paragraph, how many lists are open, and the targets of the open
links, innermost first. -/
structure Extraction where
  title : Option String := none
  before : List Section := []
  current : Section := {}
  prose : List String := []
  heading : Option OpenHeading := none
  code : Option OpenCode := none
  item : Option OpenItem := none
  depth : Nat := 0
  paragraph : List Char := []
  paragraphLine : Nat := 1
  paragraphStart : Nat := 0
  targets : List String := []
deriving Repr, DecidableEq

namespace Extraction

/-- Whether the current section is the head. -/
def inHead (x : Extraction) : Bool := x.before.isEmpty

/-- With text in whatever is open. -/
def pushText (x : Extraction) (s : List Char) : Extraction :=
  match x.heading, x.code, x.item with
  | some heading, _, _ => { x with heading := some { heading with text := heading.text ++ s } }
  | none, some code, _ => { x with code := some { code with content := code.content ++ s } }
  | none, none, some item => { x with item := some { item with text := item.text ++ s } }
  | none, none, none => { x with paragraph := x.paragraph ++ s }

/-- With markup, which only prose keeps. -/
def pushMarkup (x : Extraction) (s : String) : Extraction :=
  if x.heading.isNone ∧ x.code.isNone ∧ x.item.isNone then
    { x with paragraph := x.paragraph ++ s.toList }
  else x

/-- With a code span, which loses its backticks in a heading. -/
def pushCode (x : Extraction) (s : List Char) : Extraction :=
  x.pushText (if x.heading.isSome then s else '\x60' :: (s ++ ['\x60']))

/-- With the resulting parameter of the current section. -/
def setResult (x : Extraction) (result : List Char) : Except ParseError Extraction :=
  if x.inHead then .error (.document x.paragraphLine .resultInHead)
  else if x.current.result.isSome then
    .error (.document x.paragraphLine (.secondResult x.current.title))
  else
    .ok { x with
      current.result := some (String.ofList (Text.strip Unicode.isBlank result)) }

/-- With the open paragraph in the prose, or as the resulting parameter. -/
def flush (source : List Char) (x : Extraction) : Except ParseError Extraction :=
  let text := Text.strip Unicode.isBlank x.paragraph
  let x := { x with paragraph := [] }
  let asProse := { x with prose := String.ofList text :: x.prose }
  match text with
  | [] => .ok x
  | '-' :: '>' :: result =>
      if hasArrowAt source x.paragraphStart then x.setResult result else .ok asProse
  | _ => .ok asProse

/-- With the prose as the description of the current section. -/
def describe (x : Extraction) : Extraction :=
  if x.prose.isEmpty then x
  else { x with prose := [], current.description := some (Text.join "\n\n" x.prose.reverse) }

/-- With a heading closed: the title, a template or prose. -/
def closeHeading (x : Extraction) : Extraction :=
  match x.heading with
  | none => x
  | some heading =>
      let x := { x with heading := none }
      let text := String.ofList (Text.strip Unicode.isBlank heading.text)
      if heading.level = 1 ∧ x.title.isNone then { x with title := some text }
      else if heading.level = 2 then
        let x := x.describe
        { x with
          before := x.current :: x.before
          current := { title := text, line := heading.line } }
      else
        let marks := String.ofList (List.replicate heading.level '#')
        { x with prose := (marks ++ " " ++ text) :: x.prose }

/-- With a code block closed, which loses the line end after its last line.  A
template has only one. -/
def closeCode (x : Extraction) : Except ParseError Extraction :=
  match x.code with
  | none => .ok x
  | some code =>
      let content :=
        if code.content.getLast? = some '\n' then code.content.dropLast else code.content
      if !x.inHead ∧ !x.current.code.isEmpty then
        .error (.document code.line (.secondCodeBlock x.current.title))
      else
        .ok { x with
          code := none
          current.code := x.current.code ++ [⟨code.language, String.ofList content, code.line⟩] }

/-- With an item of an outermost list opened; an item of an inner one goes on in a
new line of the outer one. -/
def openItem (x : Extraction) (line : Nat) : Extraction :=
  if x.depth ≤ 1 then { x with item := some ⟨[], line⟩ }
  else
    match x.item with
    | some item => { x with item := some { item with text := item.text ++ ['\n'] } }
    | none => x

/-- With an item of an outermost list closed, which is a command line if it is not
blank. -/
def closeItem (x : Extraction) : Extraction :=
  match x.item with
  | none => x
  | some item =>
      if 1 < x.depth then x
      else
        let text := Text.strip Unicode.isBlank item.text
        let x := { x with item := none }
        if text.isEmpty then x
        else
          { x with
            current.commands := x.current.commands ++ [⟨String.ofList text, item.line⟩] }

/-- With a paragraph opened; in an item it goes on in a new line. -/
def openParagraph (source : List Char) (x : Extraction) (line offset : Nat) :
    Except ParseError Extraction :=
  match x.item with
  | some item =>
      if item.text.all Unicode.isBlank then .ok x
      else .ok { x with item := some { item with text := item.text ++ ['\n'] } }
  | none => do
      let x ← x.flush source
      return { x with paragraphLine := line, paragraphStart := offset }

/-! ## Events -/

/-- The language that the info text behind a fence names. -/
def languageOf (info : Option String) : Option String :=
  info.bind fun text => (Text.words text).head?

/-- With a construct entered. -/
def enter (source : List Char) (x : Extraction) (line offset : Nat) :
    Tag → Except ParseError Extraction
  | .heading level => do
      let x ← x.flush source
      return { x with heading := some ⟨level, [], line⟩ }
  | .codeBlock info => do
      let x ← x.flush source
      return { x with code := some ⟨languageOf info, [], line⟩ }
  | .list => do
      let x ← x.flush source
      return { x with depth := x.depth + 1 }
  | .item => .ok (x.openItem line)
  | .paragraph => x.openParagraph source line offset
  | .emphasis => .ok (x.pushMarkup "*")
  | .strong => .ok (x.pushMarkup "**")
  | .link target => .ok ({ x with targets := target :: x.targets }.pushMarkup "[")
  | .quote | .image => .ok x

/-- With a construct left. -/
def leave (source : List Char) (x : Extraction) : Tag → Except ParseError Extraction
  | .heading _ => .ok x.closeHeading
  | .codeBlock _ => x.closeCode
  | .list => .ok { x with depth := x.depth - 1 }
  | .item => .ok x.closeItem
  | .paragraph | .quote => if x.item.isSome then .ok x else x.flush source
  | .emphasis => .ok (x.pushMarkup "*")
  | .strong => .ok (x.pushMarkup "**")
  | .link _ =>
      .ok ({ x with targets := x.targets.tail }.pushMarkup
        ("](" ++ x.targets.head?.getD "" ++ ")"))
  | .image => .ok x

/-- With one more event told. -/
def tell (source : List Char) (starts : List Nat) (x : Extraction) :
    Event → Except ParseError Extraction
  | .enter tag offset => x.enter source (lineAt starts offset) offset tag
  | .leave tag => x.leave source tag
  | .text chars => .ok (x.pushText chars)
  | .code chars => .ok (x.pushCode chars)
  | .lineBreak => .ok (x.pushText ['\n'])

/-- The document that has been told. -/
def finish (source : List Char) (x : Extraction) : Except ParseError Document := do
  let x := (← x.flush source).describe
  match x.before.reverse ++ [x.current] with
  | head :: templates => return ⟨x.title, head, templates⟩
  | [] => return ⟨x.title, x.current, []⟩

end Extraction

/-- The document that events tell about a source. -/
def ofEvents (source : List Char) (events : List Event) : Except ParseError Document := do
  let x ← events.foldlM (Extraction.tell source (lineStarts source)) {}
  x.finish source

/-- **The sections of a document.** -/
def ofSource (source : String) : Except ParseError Document :=
  ofEvents source.toList (Markdown.events source)

end PromptPipeline.Document
