/-
# Markdown.Line -- the lines of a source and a position in a line

A source is split into lines with the byte where each starts.  A `Cursor` is a
position in a line that measures white space in columns: a tab reaches to the next
multiple of four, and a part of it can be passed.
-/
import PromptPipeline.Text.Basic

namespace PromptPipeline.Markdown

set_option autoImplicit false

/-! ## Lines -/

/-- A line of a source, without what ends it. -/
structure Line where
  offset : Nat
  chars : List Char
  ending : List Char
deriving Repr, DecidableEq

/-- The lines of a source, the first of which has the characters of `line`, last
first, before the source and starts at `offset`. -/
def splitLines (offset : Nat) (line : List Char) : List Char → List Line
  | [] => if line.isEmpty then [] else [⟨offset, line.reverse, []⟩]
  | '\n' :: rest =>
      ⟨offset, line.reverse, ['\n']⟩
        :: splitLines (offset + Text.byteLength line + 1) [] rest
  | '\r' :: '\n' :: rest =>
      ⟨offset, line.reverse, ['\r', '\n']⟩
        :: splitLines (offset + Text.byteLength line + 2) [] rest
  | '\r' :: rest =>
      ⟨offset, line.reverse, ['\r']⟩
        :: splitLines (offset + Text.byteLength line + 1) [] rest
  | c :: rest => splitLines offset (c :: line) rest

/-- The lines of a source. -/
def linesOf (source : List Char) : List Line := splitLines 0 [] source

/-- White space inside of a line. -/
def isSpace (c : Char) : Bool := c = ' ' || c = '\t' || c = '\x0b' || c = '\x0c'

/-- What ends a line, where a carriage return before a line feed does not count. -/
def Line.feed (line : Line) : List Char :=
  if line.ending = ['\r', '\n'] then ['\n'] else line.ending

/-- Whether a line, or the rest of one, has nothing but white space. -/
def isBlankLine (s : List Char) : Bool := s.all isSpace

/-! ## Positions -/

/-- A position in a line: the characters behind it, its byte in the source, its
column and the columns that are left of a tab in which it stands. -/
structure Cursor where
  rest : List Char
  offset : Nat
  column : Nat := 0
  owed : Nat := 0
deriving Repr, DecidableEq

namespace Cursor

/-- The start of a line. -/
def start (line : Line) : Cursor := ⟨line.chars, line.offset, 0, 0⟩

/-- One column of white space further. -/
def pass? (c : Cursor) : Option Cursor :=
  match c.owed, c.rest with
  | owed + 1, _ => some { c with owed, column := c.column + 1 }
  | 0, ' ' :: rest => some ⟨rest, c.offset + 1, c.column + 1, 0⟩
  | 0, '\t' :: rest => some ⟨rest, c.offset + 1, c.column + 1, 3 - c.column % 4⟩
  | 0, _ => none

/-- At most `n` columns of white space further, with their number. -/
def indent : Nat → Cursor → Nat × Cursor
  | 0, c => (0, c)
  | n + 1, c =>
      match c.pass? with
      | none => (0, c)
      | some next =>
          let (passed, last) := indent n next
          (passed + 1, last)

/-- Behind `n` ASCII characters that are no white space. -/
def advance (c : Cursor) (n : Nat) : Cursor :=
  { c with rest := c.rest.drop n, offset := c.offset + n, column := c.column + n }

/-- The rest of the line with the columns that are left of a tab as spaces. -/
def text (c : Cursor) : List Char := List.replicate c.owed ' ' ++ c.rest

end Cursor

end PromptPipeline.Markdown
