/-
# Markdown.Reader -- the blocks of a source, line by line

A line first continues the containers that are open, from the outside in, as far as
it matches them.  Then it goes to the open leaf or closes it, opens containers and
starts a leaf of its own.
-/
import PromptPipeline.Markdown.Block
import PromptPipeline.Markdown.Marker

namespace PromptPipeline.Markdown

set_option autoImplicit false

/-! ## What is open -/

/-- An open container.  A list has the mark of its items, and an item the width of
its indentation. -/
inductive Frame
  | quote
  | list (mark : Char) (tight : Bool)
  | item (width : Nat)
deriving Repr, DecidableEq

/-- The container that a frame becomes. -/
def Frame.container : Frame → Container
  | quote => .quote
  | list _ tight => .list tight
  | item _ => .item

/-- An open leaf.  Texts are kept last character first.  Blank lines in an indented
code block count only if more follows, and an HTML block ends at the line with some
text or at a blank line. -/
inductive OpenLeaf
  | paragraph (offset : Nat) (text : List Char)
  | fenced (offset : Nat) (info : String) (mark : Char) (length indent : Nat) (text : List Char)
  | indented (offset : Nat) (text blank : List Char)
  | html (offset : Nat) (last : Option (List Char)) (ended : Bool)
deriving Repr, DecidableEq

/-- An open container with the byte where it starts and the blocks in it, last first. -/
structure Layer where
  frame : Frame
  offset : Nat
  blocks : List Block := []
deriving Repr

/-- What has been read: the open containers, innermost first, the finished blocks
outside of them, the open leaf and the definitions, last first; whether an item has
just been opened on a line with nothing else, whether the last line was blank, and
how many lines have been read ahead. -/
structure State where
  layers : List Layer := []
  blocks : List Block := []
  leaf : Option OpenLeaf := none
  definitions : List Link.Definition := []
  emptyItem : Bool := false
  afterBlank : Bool := false
  ahead : Nat := 0
deriving Repr

namespace State

/-- With a finished block in the innermost open container. -/
def add (s : State) (block : Block) : State :=
  match s.layers with
  | [] => { s with blocks := block :: s.blocks }
  | layer :: outer => { s with layers := { layer with blocks := block :: layer.blocks } :: outer }

/-- With the innermost container closed. -/
def closeLayer (s : State) : State :=
  match s.layers with
  | [] => s
  | layer :: outer =>
      { s with layers := outer }.add
        (.container layer.frame.container layer.offset layer.blocks.reverse)

/-- With the innermost `n` containers closed. -/
def closeLayers : Nat → State → State
  | 0, s => s
  | n + 1, s => closeLayers n s.closeLayer

/-- With a container opened. -/
def openLayer (s : State) (frame : Frame) (offset : Nat) : State :=
  { s with layers := ⟨frame, offset, []⟩ :: s.layers }

/-- With the open leaf closed. -/
def closeLeaf (s : State) : State :=
  match s.leaf with
  | none => s
  | some leaf =>
      { s with leaf := none }.add <|
        match leaf with
        | .paragraph offset text => .leaf (.paragraph text.reverse) offset
        | .fenced offset info _ _ _ text => .leaf (.code (some info) text.reverse) offset
        | .indented offset text _ => .leaf (.code none text.reverse) offset
        | .html offset _ _ => .leaf .html offset

/-! ## Lists -/

/-- With a list closed whose item has just been closed.  After a blank line the list
around an open item is not tight, since the item goes on. -/
def finishList (s : State) : State :=
  let s := match s.layers with
    | ⟨.list .., _, _⟩ :: _ => s.closeLayer
    | _ => s
  if s.afterBlank then
    match s.layers with
    | item :: ⟨.list mark _, offset, blocks⟩ :: outer =>
        { s with
          layers := item :: ⟨.list mark false, offset, blocks⟩ :: outer
          afterBlank := false }
    | _ => { s with afterBlank := false }
  else s

/-- With the list open to which an item with `mark` belongs. -/
def continueList (s : State) (mark : Char) (offset : Nat) : State :=
  let fresh := { s.finishList.openLayer (.list mark true) offset with afterBlank := false }
  match s.layers with
  | ⟨.list other tight, start, blocks⟩ :: outer =>
      if other = mark then
        { s with
          layers := ⟨.list other (tight && !s.afterBlank), start, blocks⟩ :: outer
          afterBlank := false }
      else fresh
  | _ => fresh

/-- With a blank line read. -/
def blankLine (s : State) : State :=
  match s.layers with
  | [] => s
  | ⟨.quote, _, _⟩ :: _ => s
  | ⟨.item _, _, _⟩ :: _ => { (if s.emptyItem then s.closeLayer else s) with afterBlank := true }
  | ⟨.list .., _, _⟩ :: _ => { s with afterBlank := true }

end State

/-! ## Containers -/

/-- Behind what continues a container on a further line. -/
def Frame.continue? (c : Cursor) : Frame → Option Cursor
  | quote =>
      let (_, c) := c.indent 3
      if c.rest.head? = some '>' then some ((c.advance 1).indent 1).2 else none
  | list .. => some c
  | item width =>
      let (passed, c) := c.indent width
      if passed = width ∨ c.rest.isEmpty then some c else none

/-- How many of some containers, outermost first, a line continues, and the position
behind what continues them. -/
def continueFrames : List Frame → Cursor → Nat × Cursor
  | [], c => (0, c)
  | frame :: inner, c =>
      match frame.continue? c with
      | none => (0, c)
      | some behind =>
          let (depth, last) := continueFrames inner behind
          (depth + 1, last)

/-- The open containers, outermost first. -/
def State.frames (s : State) : List Frame := (s.layers.map Layer.frame).reverse

/-- With the containers opened that start at a cursor, which is moved behind them;
no cursor is left if an empty item takes the rest of the line.  Every container
takes some fuel and some text. -/
def openContainers : Nat → State → Cursor → State × Option Cursor
  | 0, s, c => (s, some c)
  | fuel + 1, s, c =>
      let (outer, inner) := c.indent 4
      if outer = 4 then (s, some c)
      else
        match Marker.item? outer inner with
        | some (mark, width, content) =>
            let s := (s.continueList mark c.offset).openLayer (.item width) c.offset
            if isBlankLine content.rest then ({ s with emptyItem := true }, none)
            else openContainers fuel s content
        | none =>
            if inner.rest.head? = some '>' then
              openContainers fuel (s.finishList.openLayer .quote inner.offset)
                ((inner.advance 1).indent 1).2
            else (s, some c)

/-! ## Leaves -/

/-- Whether there are only spaces and tabs. -/
def isSpaces (s : List Char) : Bool := s.all fun c => c = ' ' || c = '\t'

/-- The lines that would continue a paragraph, each behind a line feed. -/
def continuation (frames : List Frame) : List Line → List Char
  | [] => []
  | line :: next =>
      let (depth, c) := continueFrames frames (.start line)
      let (indent, inner) := c.indent 4
      if isSpaces c.rest
          ∨ (indent < 4 ∧ Marker.interrupts (depth = frames.length) next inner.rest) then []
      else '\n' :: (c.rest ++ continuation frames next)

/-- With an HTML block open, which may end on this very line. -/
def State.openHtml (s : State) (c : Cursor) (last : Option (List Char)) : State :=
  { s with leaf := some (.html c.offset last (last.any fun text => Text.containsText text c.rest)) }

/-- With the paragraph, or the definitions of links, open that start at a cursor. -/
def State.openParagraph (s : State) (c : Cursor) (next : List Line) : State :=
  let more := continuation s.frames next
  match Link.definition? (c.rest ++ more) with
  | some (definition, rest) =>
      let lines := more.count '\n'
      { s with
        definitions := definition :: s.definitions
        ahead := if rest.isEmpty then lines else lines - 1 - rest.count '\n' }
  | none => { s with leaf := some (.paragraph c.offset c.rest.reverse) }

/-- With the leaf open, or already finished, that starts at a cursor, which is
indented by `indent` columns. -/
def State.openLeaf (s : State) (indent : Nat) (c : Cursor) (next : List Line) : State :=
  match c.rest with
  | '<' :: tag =>
      match Html.blockEnd? tag with
      | some last => s.openHtml c (some last)
      | none =>
          if Html.opensBlock tag || Html.isLoneTag tag then s.openHtml c none
          else s.openParagraph c next
  | text =>
      if Marker.isRule text then s.add (.leaf .rule c.offset)
      else
        match Marker.heading? text with
        | some (level, title) => s.add (.leaf (.heading level title) c.offset)
        | none =>
            match Marker.fence? text with
            | some (mark, length, info) =>
                let info := String.ofList (Link.unescape (Text.strip isSpace info))
                { s with leaf := some (.fenced c.offset info mark length indent []) }
            | none => s.openParagraph c next

/-! ## Lines -/

/-- With the rest of a line read that belongs to no open leaf and continues `depth`
of the open containers. -/
def State.openBlock (s : State) (depth : Nat) (c : Cursor) (line : Line) (next : List Line) :
    State :=
  let s := s.closeLayers (s.layers.length - depth)
  match openContainers c.rest.length s c with
  | (s, none) => s
  | (s, some c) =>
      if isBlankLine c.rest then s.blankLine
      else
        let s := { s with emptyItem := false }.finishList
        let (indent, c) := c.indent 4
        if indent = 4 then
          let text := (c.text ++ line.feed).reverse
          { s with leaf := some (.indented c.offset text []), afterBlank := false }
        else s.openLeaf indent c next

/-- With one more line read; `next` are the lines behind it. -/
def State.step (s : State) (line : Line) (next : List Line) : State :=
  let (depth, c) := continueFrames s.frames (.start line)
  let inside : Bool := depth = s.layers.length
  let other := s.closeLeaf.openBlock depth c line next
  match s.leaf with
  | none => other
  | some (.paragraph offset text) =>
      let (indent, inner) := c.indent 4
      match if inside ∧ indent < 4 then Marker.underline? inner.rest else none with
      | some level => { s with leaf := none }.add (.leaf (.heading level text.reverse) offset)
      | none =>
          if isSpaces c.rest ∨ (indent < 4 ∧ Marker.interrupts inside next inner.rest) then other
          else { s with leaf := some (.paragraph offset (c.rest.reverse ++ '\n' :: text)) }
  | some (.fenced offset info mark length indent text) =>
      if !inside then other
      else
        let (_, c) := c.indent indent
        let (more, inner) := c.indent (4 - indent)
        if more < 4 - indent ∧ Marker.closesFence mark length inner.rest then s.closeLeaf
        else
          let text := (c.text ++ line.feed).reverse ++ text
          { s with leaf := some (.fenced offset info mark length indent text) }
  | some (.indented offset text blank) =>
      let (indent, c) := c.indent 4
      if inside ∧ (indent = 4 ∨ c.rest.isEmpty) then
        let more := (c.text ++ line.feed).reverse
        if isBlankLine c.rest then
          { s with leaf := some (.indented offset text (more ++ blank)), afterBlank := true }
        else
          { s with leaf := some (.indented offset (more ++ blank ++ text) []), afterBlank := false }
      else other
  | some (.html offset (some last) ended) =>
      if !inside ∨ ended then other
      else { s with leaf := some (.html offset (some last) (Text.containsText last c.rest)) }
  | some (.html _ none _) => if !inside ∨ isBlankLine c.rest then other else s

/-- With lines read; those that have been read ahead are passed over. -/
def State.readLines (s : State) : List Line → State
  | [] => s
  | line :: next =>
      match s.ahead with
      | 0 => (s.step line next).readLines next
      | ahead + 1 => { s with ahead }.readLines next

/-- **The blocks of a source.** -/
def Tree.ofSource (source : String) : Tree :=
  let last := (State.readLines {} (linesOf source.toList)).closeLeaf
  let last := last.closeLayers last.layers.length
  ⟨last.blocks.reverse, last.definitions.reverse⟩

/-- **The events of a source.** -/
def events (source : String) : List Event := (Tree.ofSource source).events

end PromptPipeline.Markdown
