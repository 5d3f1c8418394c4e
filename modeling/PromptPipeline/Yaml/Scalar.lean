/-
# Yaml.Scalar -- scalars in YAML text

A scalar is plain, between quotes, or a block of lines under a mark.  In the first
two a line end counts as a space and further ones are kept; a block is literal or
has its lines folded.

Every reader returns nothing where the text is not YAML.  Fuel is the length of the
text that is left, of which every step takes a part.
-/
import PromptPipeline.Yaml.Basic
import PromptPipeline.Yaml.Position
import PromptPipeline.Text.Digit

namespace PromptPipeline.Yaml

set_option autoImplicit false

/-! ## White space inside of a scalar -/

/-- White space in a scalar: the blanks if it is on one line; else what its first line
end and the further ones stand for. -/
structure Gap where
  blanks : List Char := []
  broken : Bool := false
  first : List Char := []
  more : List Char := []
deriving Repr, DecidableEq

/-- What white space stands for. -/
def Gap.text (g : Gap) : List Char :=
  if !g.broken then g.blanks
  else if g.first = ['\n'] then (if g.more.isEmpty then [' '] else g.more)
  else g.first ++ g.more

/-- White space and the position behind it.  In a further line no tab stands before
column `bound`. -/
def readGap (bound : Nat) : Nat → Gap → Position → Option (Gap × Position)
  | 0, g, p => some (g, p)
  | fuel + 1, g, p =>
      match p.rest with
      | [] => some (g, p)
      | c :: _ =>
          if isBlank c then
            if !g.broken then readGap bound fuel { g with blanks := g.blanks ++ [c] } (p.skip 1)
            else if c = '\t' ∧ p.column < bound then none
            else readGap bound fuel g (p.skip 1)
          else if isBreak c then
            let (text, next) := p.readBreak
            if g.broken then readGap bound fuel { g with more := g.more ++ text } next
            else readGap bound fuel ⟨[], true, text, []⟩ next
          else some (g, p)

/-! ## Plain scalars -/

/-- Whether a text can start a plain scalar. -/
def startsPlain (inFlow : Bool) (s : List Char) : Bool :=
  match s with
  | [] => false
  | c :: rest =>
      if c = '-' then !rest.head?.any isBlank
      else if c = '?' ∨ c = ':' then !inFlow && !atGap rest
      else
        !isGap c && !isFlowMark c
          && !(['#', '&', '*', '!', '|', '>', '\'', '"', '%', '@', '\x60'].contains c)

/-- The characters of a plain scalar up to a gap or its end, and what follows them. -/
def plainRun (inFlow : Bool) : List Char → Option (List Char × List Char)
  | [] => some ([], [])
  | c :: rest =>
      if isGap c then some ([], c :: rest)
      else if inFlow && c = ':' && rest.head?.any (fun d => isFlowMark d || d = '?') then none
      else if (c = ':' && atGap rest) || (inFlow && isFlowMark c) then some ([], c :: rest)
      else (plainRun inFlow rest).map fun (run, after) => (c :: run, after)

/-- The text of a plain scalar, whether a line end is behind it, and the position
behind it.  So far `text` has been read, and then white space; further lines are
indented to `bound`. -/
def plainFrom (inFlow : Bool) (bound : Nat) :
    Nat → List Char → Gap → Position → Option (List Char × Bool × Position)
  | 0, text, g, p => some (text, g.broken, p)
  | fuel + 1, text, g, p =>
      if p.atMark || p.rest.head? = some '#' then some (text, g.broken, p)
      else do
        let (run, after) ← plainRun inFlow p.rest
        if run.isEmpty then return (text, g.broken, p)
        let text := text ++ g.text ++ run
        let p := p.skip run.length
        if !after.head?.any isGap then return (text, false, p)
        let (g, p) ← readGap bound after.length {} p
        if !inFlow && p.column < bound then return (text, g.broken, p)
        plainFrom inFlow bound fuel text g p

/-- A plain scalar. -/
def plain? (inFlow : Bool) (bound : Nat) (p : Position) :
    Option (List Char × Bool × Position) :=
  plainFrom inFlow bound p.rest.length [] {} p

/-! ## Quoted scalars -/

/-- The character that stands behind a backslash for another one. -/
def escape? : Char → Option Char
  | '0' => some '\x00'
  | 'a' => some '\x07'
  | 'b' => some '\x08'
  | 't' => some '\t'
  | '\t' => some '\t'
  | 'n' => some '\n'
  | 'v' => some '\x0b'
  | 'f' => some '\x0c'
  | 'r' => some '\r'
  | 'e' => some '\x1b'
  | ' ' => some ' '
  | '"' => some '"'
  | '/' => some '/'
  | '\\' => some '\\'
  | 'N' => some '\u0085'
  | '_' => some '\u00a0'
  | 'L' => some '\u2028'
  | 'P' => some '\u2029'
  | _ => none

/-- How many hexadecimal digits follow a letter behind a backslash. -/
def escapeLength? : Char → Option Nat
  | 'x' => some 2
  | 'u' => some 4
  | 'U' => some 8
  | _ => none

/-- What an escape behind its backslash stands for, and its length. -/
def readEscape? (s : List Char) : Option (Char × Nat) :=
  match s with
  | [] => none
  | c :: rest =>
      match escapeLength? c with
      | some length => do
          let digits := rest.take length
          guard (digits.length = length ∧ digits.all (Text.isDigitIn 16))
          let code := Text.readDigits 16 digits
          guard code.isValidChar
          return (Char.ofNat code, length + 1)
      | none => (escape? c).map fun d => (d, 1)

/-- The characters of a scalar between quotes up to a gap or the closing quote, last
first, behind `text`; whether the line end behind them is escaped; and the position
behind them. -/
def quotedRun (quote : Char) : Nat → List Char → Position → Option (List Char × Bool × Position)
  | 0, text, p => some (text, false, p)
  | fuel + 1, text, p =>
      match p.rest with
      | [] => some (text, false, p)
      | c :: rest =>
          if isGap c then some (text, false, p)
          else if c = quote then
            if c = '\'' ∧ rest.head? = some '\'' then
              quotedRun quote fuel (c :: text) (p.skip 2)
            else some (text, false, p)
          else if c = '\\' ∧ quote = '"' then
            if rest.head?.any isBreak then some (text, true, (p.skip 1).readBreak.2)
            else do
              let (d, length) ← readEscape? rest
              quotedRun quote fuel (d :: text) (p.skip (1 + length))
          else quotedRun quote fuel (c :: text) (p.skip 1)

/-- The text of a scalar between quotes from behind the first of them, last character
first, behind `text`. -/
def quotedFrom (quote : Char) : Nat → List Char → Position → Option (List Char × Position)
  | 0, _, _ => none
  | fuel + 1, text, p =>
      if p.atMark || p.rest.isEmpty then none
      else do
        let (text, escaped, p) ← quotedRun quote p.rest.length text p
        if p.rest.head? = some quote then return (text, p.skip 1)
        let (g, p) ← readGap 0 p.rest.length { broken := escaped } p
        quotedFrom quote fuel (g.text.reverse ++ text) p

/-- A scalar between quotes. -/
def quoted? (p : Position) : Option (List Char × Position) := do
  let quote ← p.rest.head?
  let (text, p) ← quotedFrom quote (p.rest.length + 1) [] (p.skip 1)
  return (text.reverse, p)

/-! ## Block scalars -/

/-- What becomes of the line ends at the end of a block: all but the first go, or none
stays, or all stay. -/
inductive Chomping
  | clip
  | strip
  | keep
deriving Repr, DecidableEq

/-- What follows the mark of a block: what becomes of the line ends at its end, and by
how many columns it is indented if that is told. -/
def blockHeader? (s : List Char) : Option (Chomping × Option Nat × Nat) :=
  let chomping? (c : Char) : Option Chomping :=
    if c = '+' then some .keep else if c = '-' then some .strip else none
  let digit? (c : Char) : Option Nat := if c.isDigit then some (c.toNat - '0'.toNat) else none
  let second := s.tail.head?
  match s.head?.bind chomping?, s.head?.bind digit? with
  | some chomping, _ =>
      match second.bind digit? with
      | some 0 => none
      | some n => some (chomping, some n, 2)
      | none => some (chomping, none, 1)
  | none, some 0 => none
  | none, some n =>
      match second.bind chomping? with
      | some chomping => some (chomping, some n, 2)
      | none => some (.clip, some n, 1)
  | none, none => some (.clip, none, 0)

/-- The empty lines before a line of a block: the deepest column in them, what their
ends stand for, and the position at the line.  An indentation that is not known yet
takes all spaces; no tab stands in it. -/
def blockBreaks (indent : Option Nat) :
    Nat → Nat → List Char → Position → Option (Nat × List Char × Position)
  | 0, deepest, text, p => some (deepest, text, p)
  | fuel + 1, deepest, text, p =>
      let spaces := (p.rest.takeWhile (· = ' ')).length
      let p := p.skip ((indent.map fun n => min spaces (n - p.column)).getD spaces)
      let deepest := max deepest p.column
      if p.rest.head? = some '\t' ∧ indent.all (p.column < ·) then none
      else if p.rest.head?.any isBreak then
        let (ending, next) := p.readBreak
        blockBreaks indent fuel deepest (text ++ ending) next
      else some (deepest, text, p)

/-- A block that is being read: its text, what the end of its last line and the empty
lines behind that stand for, and whether its last line starts with white space. -/
structure Block where
  text : List Char := []
  ending : List Char := []
  more : List Char := []
  afterBlank : Bool := false
deriving Repr, DecidableEq

/-- With the start of a further line of the block. -/
def Block.join (b : Block) (literal atBlank : Bool) : List Char :=
  b.text
    ++ (if !literal && b.ending = ['\n'] && !b.afterBlank && !atBlank then
          (if b.more.isEmpty then [' '] else [])
        else b.ending)
    ++ b.more

/-- The lines of a block that are indented by `indent` columns. -/
def blockLines (literal : Bool) (indent : Nat) : Nat → Block → Position → Option (Block × Position)
  | 0, b, p => some (b, p)
  | fuel + 1, b, p =>
      if p.column ≠ indent ∨ p.rest.isEmpty then some (b, p)
      else do
        let atBlank := p.rest.head?.any isBlank
        let line := p.rest.takeWhile (!isBreak ·)
        let (ending, next) := (p.skip line.length).readBreak
        let (_, more, next) ← blockBreaks (some indent) next.rest.length 0 [] next
        blockLines literal indent fuel
          ⟨b.join literal atBlank ++ line, ending, more, atBlank⟩ next

/-- A block scalar, whose lines are indented at least to `bound`. -/
def block? (literal : Bool) (bound : Nat) (p : Position) : Option (List Char × Position) := do
  let (chomping, told, length) ← blockHeader? p.rest.tail
  let behind := (p.skip (1 + length)).skipRemark
  guard (atBreak behind.rest)
  let indent := told.map (bound - 1 + ·)
  let (deepest, more, start) ← blockBreaks indent p.rest.length 0 [] behind.readBreak.2
  let indent := indent.getD (max (max deepest bound) 1)
  let (b, p) ← blockLines literal indent p.rest.length { more } start
  match chomping with
  | .strip => return (b.text, p)
  | .clip => return (b.text ++ b.ending, p)
  | .keep => return (b.text ++ b.ending ++ b.more, p)

end PromptPipeline.Yaml
