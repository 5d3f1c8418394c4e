/-
# Yaml.Position -- characters and positions in YAML text

A position knows its line and its column, since both tell what belongs to what.
-/
import PromptPipeline.Text.Basic

namespace PromptPipeline.Yaml

set_option autoImplicit false

/-! ## Characters -/

/-- A space or a tab. -/
def isBlank (c : Char) : Bool := c = ' ' || c = '\t'

/-- A character that ends a line. -/
def isBreak (c : Char) : Bool := ['\n', '\r', '\u0085', '\u2028', '\u2029'].contains c

/-- A space, a tab or a character that ends a line. -/
def isGap (c : Char) : Bool := isBlank c || isBreak c

/-- A character of a name. -/
def isNameChar (c : Char) : Bool := c.isAlphanum || c = '_' || c = '-'

/-- A character that has a meaning of its own between brackets. -/
def isFlowMark (c : Char) : Bool := [',', '[', ']', '\x7b', '\x7d'].contains c

/-- Whether a character may stand in YAML text. -/
def isAllowed (c : Char) : Bool :=
  ['\t', '\n', '\r', '\u0085'].contains c || (' ' ≤ c && c ≤ '~')
    || ('\u00a0' ≤ c && c ≠ '\ufffe' && c ≠ '\uffff')

/-- Whether a text is at its end or at white space. -/
def atGap (s : List Char) : Bool := s.head?.all isGap

/-- Whether a text is at its end or at the end of a line. -/
def atBreak (s : List Char) : Bool := s.head?.all isBreak

/-! ## Positions -/

/-- The text behind a position, and how many characters, lines and columns are
before it. -/
structure Position where
  rest : List Char
  index : Nat := 0
  line : Nat := 0
  column : Nat := 0
deriving Repr, DecidableEq

namespace Position

/-- Some characters of the same line further. -/
def skip (p : Position) (n : Nat) : Position :=
  { p with rest := p.rest.drop n, index := p.index + n, column := p.column + n }

/-- Behind the characters that satisfy a test. -/
def skipWhile (p : Position) (test : Char → Bool) : Position :=
  p.skip (p.rest.takeWhile test).length

/-- What the end of the line stands for in a scalar, and the start of the next line. -/
def readBreak (p : Position) : List Char × Position :=
  match p.rest with
  | '\r' :: '\n' :: rest => (['\n'], ⟨rest, p.index + 2, p.line + 1, 0⟩)
  | c :: rest =>
      (if c = '\u2028' ∨ c = '\u2029' then [c] else ['\n'], ⟨rest, p.index + 1, p.line + 1, 0⟩)
  | [] => ([], p)

/-- Behind blanks and the comment that follows them. -/
def skipRemark (p : Position) : Position :=
  let p := p.skipWhile isBlank
  if p.rest.head? = some '#' then p.skipWhile (!isBreak ·) else p

/-- Whether a line starts here with three times a character and then a gap. -/
def atTriple (p : Position) (mark : Char) : Bool :=
  p.column = 0 && (Text.afterLead? [mark, mark, mark] p.rest).any atGap

/-- Whether a line starts here that stands between documents. -/
def atMark (p : Position) : Bool := p.atTriple '-' || p.atTriple '.'

end Position

end PromptPipeline.Yaml
