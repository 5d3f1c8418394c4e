/-
# Yaml.Token -- the tokens of YAML text

Brackets and marks are tokens of their own, and so are the starts and ends of the
blocks that indentation tells.  That a node is a key shows only at the colon behind
it, so a `Scan` remembers where a node has started that can still be one
(`PossibleKey`): its token then gets a `key` before it, and where the block of a
mapping starts with it, that start.  Between brackets a key waits for each of them.

A `bound` is the column where lines of the open block start plus one, and zero outside
of all blocks.
-/
import PromptPipeline.Yaml.Scalar

namespace PromptPipeline.Yaml

set_option autoImplicit false

/-! ## Tokens -/

/-- A token.  A tag has a handle, that stands for the start of a longer one, and the
rest of it. -/
inductive Token
  | version (major minor : Nat)
  | handle (handle meaning : List Char)
  | documentStart
  | documentEnd
  | itemsStart
  | membersStart
  | blockEnd
  | openBracket
  | closeBracket
  | openBrace
  | closeBrace
  | dash
  | comma
  | key
  | value
  | repeated (name : List Char)
  | name (name : List Char)
  | tag (handle rest : List Char)
  | scalar (style : Style) (text : List Char)
deriving Repr, DecidableEq

/-- A node that can still turn out to be a key: how many tokens are before it, whether
nothing else can stand in its place, and where it starts. -/
structure PossibleKey where
  place : Nat
  required : Bool
  index : Nat
  line : Nat
  column : Nat
deriving Repr, DecidableEq

/-- How far a text has been scanned: the tokens, last first; the bounds of the open
block and of those around it; whether a key may start here; the possible keys inside
of the innermost bracket and outside of it, one for each bracket. -/
structure Scan where
  position : Position
  tokens : List Token := []
  bound : Nat := 0
  outer : List Nat := []
  keyAllowed : Bool := true
  possible : Option PossibleKey := none
  waiting : List (Option PossibleKey) := []
deriving Repr, DecidableEq

namespace Scan

/-- Whether a bracket is open. -/
def inFlow (s : Scan) : Bool := !s.waiting.isEmpty

/-- With one more token. -/
def push (s : Scan) (t : Token) : Scan := { s with tokens := t :: s.tokens }

/-- With a token behind the first `place` tokens. -/
def insert (s : Scan) (place : Nat) (t : Token) : Scan :=
  let behind := s.tokens.length - place
  { s with tokens := s.tokens.take behind ++ t :: s.tokens.drop behind }

/-- With a token of `n` characters. -/
def mark (s : Scan) (t : Token) (n : Nat) : Scan :=
  { s.push t with position := s.position.skip n }

/-! ## Blocks and keys -/

/-- With a block open at a column, if it is deeper than the open one.  Its start comes
behind the first `place` tokens. -/
def openBlock (s : Scan) (column place : Nat) (start : Token) : Scan :=
  if s.inFlow ∨ column < s.bound then s
  else { s.insert place start with bound := column + 1, outer := s.bound :: s.outer }

/-- With the blocks closed that end before `bound`, innermost first. -/
def closeBlocksTo (bound : Nat) : List Nat → Scan → Scan
  | [], s => s
  | next :: outer, s =>
      if bound < s.bound then
        closeBlocksTo bound outer { s.push .blockEnd with bound := next, outer }
      else s

/-- With the blocks closed that end before `bound`; between brackets there are none. -/
def closeBlocks (s : Scan) (bound : Nat) : Scan :=
  if s.inFlow then s else closeBlocksTo bound s.outer s

/-- A possible key unless it has become too long, which one that is required can
not. -/
def PossibleKey.current (p : Position) : Option PossibleKey → Option (Option PossibleKey)
  | none => some none
  | some k =>
      if k.line < p.line ∨ k.index + 1024 < p.index then
        if k.required then none else some none
      else some (some k)

/-- Without the possible keys that have become too long. -/
def dropLongKeys (s : Scan) : Option Scan := do
  let possible ← PossibleKey.current s.position s.possible
  let waiting ← s.waiting.mapM (PossibleKey.current s.position)
  return { s with possible, waiting }

/-- Without the possible key, which can not be required. -/
def dropKey (s : Scan) : Option Scan :=
  if s.possible.any PossibleKey.required then none else some { s with possible := none }

/-- With a possible key that starts here, if one may. -/
def saveKey (s : Scan) : Option Scan :=
  if s.keyAllowed then do
    let s ← s.dropKey
    let p := s.position
    return { s with
      possible := some
        ⟨s.tokens.length, !s.inFlow && s.bound = p.column + 1, p.index, p.line, p.column⟩ }
  else some s

/-! ## Marks -/

/-- With a bracket opened. -/
def openFlow (s : Scan) (t : Token) : Option Scan := do
  let s ← s.saveKey
  return { s.mark t 1 with
    waiting := s.possible :: s.waiting, possible := none, keyAllowed := true }

/-- With a bracket closed. -/
def closeFlow (s : Scan) (t : Token) : Option Scan := do
  let s ← s.dropKey
  let s := { s.mark t 1 with keyAllowed := false }
  match s.waiting with
  | [] => return s
  | possible :: waiting => return { s with possible, waiting }

/-- With a comma. -/
def comma (s : Scan) : Option Scan := do
  let s ← s.dropKey
  return { s.mark .comma 1 with keyAllowed := true }

/-- With the block open in which a mark stands that is no part of a line that has
started. -/
def openAt (s : Scan) (start : Token) : Option Scan :=
  if s.inFlow then some s
  else if s.keyAllowed then some (s.openBlock s.position.column s.tokens.length start)
  else none

/-- With the dash of an item. -/
def dash (s : Scan) : Option Scan := do
  let s ← s.openAt .itemsStart
  let s ← s.dropKey
  return { s.mark .dash 1 with keyAllowed := true }

/-- With the question mark of a key. -/
def key (s : Scan) : Option Scan := do
  let s ← s.openAt .membersStart
  let s ← s.dropKey
  return { s.mark .key 1 with keyAllowed := !s.inFlow }

/-- With the colon of a value. -/
def value (s : Scan) : Option Scan :=
  match s.possible with
  | some k =>
      let s := (s.insert k.place .key).openBlock k.column k.place .membersStart
      some { s.mark .value 1 with possible := none, keyAllowed := false }
  | none => do
      let s ← s.openAt .membersStart
      return { s.mark .value 1 with keyAllowed := !s.inFlow }

/-- With a mark between documents. -/
def document (s : Scan) (t : Token) : Option Scan := do
  let s ← (s.closeBlocks 0).dropKey
  return { s.mark t 3 with keyAllowed := false }

/-! ## Names, tags and directives -/

/-- The characters of a name behind a mark. -/
def afterMark (p : Position) : List Char := p.rest.tail.takeWhile isNameChar

/-- With a node that is named or repeated. -/
def reference (s : Scan) (t : List Char → Token) : Option Scan := do
  let s ← s.saveKey
  let name := afterMark s.position
  let behind := s.position.skip (1 + name.length)
  guard (!name.isEmpty ∧ behind.rest.head?.all fun c =>
    isGap c || ['?', ':', ',', ']', '\x7d', '%', '@', '\x60'].contains c)
  return { s.push (t name) with position := behind, keyAllowed := false }

/-- The handle at the start of a tag: an exclamation mark with a name and a second
one behind it, or else without. -/
def tagHandle (p : Position) : List Char :=
  let name := afterMark p
  if (p.rest.drop (1 + name.length)).head? = some '!' then '!' :: (name ++ ['!']) else '!' :: name

/-- Whether a character can stand in a tag, or in one that is written out in full. -/
def isTagChar (whole : Bool) (c : Char) : Bool :=
  isNameChar c
    || [';', '/', '?', ':', '@', '&', '=', '+', '$', '.', '!', '~', '*', '\'', '(', ')'].contains c
    || (whole && [',', '[', ']'].contains c)

/-- The byte that two hexadecimal digits behind a percent sign spell. -/
def escapedByte? : List Char → Option Nat
  | '%' :: a :: b :: _ => do return (← Text.hexValue? a) * 16 + (← Text.hexValue? b)
  | _ => none

/-- The character whose bytes are escaped at the start of a text, and their number. -/
def escapedChar? (s : List Char) : Option (Char × Nat) := do
  let first ← escapedByte? s
  let length ←
    if first < 0x80 then some 1
    else if first / 32 = 6 then some 2
    else if first / 16 = 14 then some 3
    else if first / 8 = 30 then some 4
    else none
  let bytes ← (List.range length).mapM fun i => escapedByte? (s.drop (3 * i))
  let text ← String.fromUTF8? ⟨(bytes.map UInt8.ofNat).toArray⟩
  return (← text.toList.head?, length)

/-- The characters of a tag, last first behind `text`, with escaped bytes resolved. -/
def tagText (whole : Bool) : Nat → List Char → Position → Option (List Char × Position)
  | 0, text, p => some (text, p)
  | fuel + 1, text, p =>
      match p.rest with
      | [] => some (text, p)
      | c :: _ =>
          if c = '%' then do
            let (d, length) ← escapedChar? p.rest
            tagText whole fuel (d :: text) (p.skip (3 * length))
          else if isTagChar whole c then tagText whole fuel (c :: text) (p.skip 1)
          else some (text, p)

/-- The rest of a tag. -/
def tagRest? (whole : Bool) (lead : List Char) (p : Position) : Option (List Char × Position) := do
  let (text, p) ← tagText whole p.rest.length lead.reverse p
  return (text.reverse, p)

/-- A tag: one between angle brackets is written out in full, and one without a handle
of its own has the plain one. -/
def readTag? (p : Position) : Option (Token × Position) :=
  if p.rest.tail.head? = some '<' then do
    let (text, behind) ← tagRest? true [] (p.skip 2)
    guard (!text.isEmpty ∧ behind.rest.head? = some '>')
    return (.tag [] text, behind.skip 1)
  else
    let handle := tagHandle p
    let behind := p.skip handle.length
    if 1 < handle.length ∧ handle.getLast? = some '!' then do
      let (text, behind) ← tagRest? false [] behind
      guard (!text.isEmpty)
      return (.tag handle text, behind)
    else do
      let (text, behind) ← tagRest? false handle.tail behind
      return (if text.isEmpty then .tag [] ['!'] else .tag ['!'] text, behind)

/-- With a tag. -/
def tag (s : Scan) : Option Scan := do
  let s ← s.saveKey
  let (t, behind) ← readTag? s.position
  guard (atGap behind.rest || (s.inFlow && behind.rest.head? = some ','))
  return { s.push t with position := behind, keyAllowed := false }

/-- The number of at most nine digits at a position, and the position behind it. -/
def number? (p : Position) : Option (Nat × Position) :=
  let digits := p.rest.takeWhile Char.isDigit
  if digits.isEmpty ∨ 9 < digits.length then none
  else some (Text.readDigits 10 digits, p.skip digits.length)

/-- The token of a directive from behind its percent sign. -/
def readDirective? (p : Position) : Option (Token × Position) := do
  let name := p.rest.takeWhile isNameChar
  let behind := p.skip name.length
  guard (atGap behind.rest)
  let p := behind.skipWhile isBlank
  match String.ofList name with
  | "YAML" =>
      let (major, p) ← number? p
      guard (p.rest.head? = some '.')
      let (minor, p) ← number? (p.skip 1)
      return (.version major minor, p)
  | "TAG" =>
      guard (p.rest.head? = some '!')
      let handle := tagHandle p
      guard (handle.length = 1 ∨ handle.getLast? = some '!')
      let p := p.skip handle.length
      guard (p.rest.head?.any isBlank)
      let (text, p) ← tagRest? true [] (p.skipWhile isBlank)
      guard (!text.isEmpty ∧ atGap p.rest)
      return (.handle handle text, p)
  | _ => none

/-- With a directive, which takes a line. -/
def directive (s : Scan) : Option Scan := do
  let s ← (s.closeBlocks 0).dropKey
  let (t, p) ← readDirective? (s.position.skip 1)
  let p := p.skipRemark
  guard (atBreak p.rest)
  return { s.push t with position := p.readBreak.2, keyAllowed := false }

/-! ## Scalars -/

/-- With a scalar between quotes. -/
def quoted (s : Scan) : Option Scan := do
  let s ← s.saveKey
  let (text, p) ← quoted? s.position
  return { s.push (.scalar .quoted text) with position := p, keyAllowed := false }

/-- With a plain scalar. -/
def plain (s : Scan) : Option Scan := do
  let s ← s.saveKey
  let (text, broken, p) ← plain? s.inFlow s.bound s.position
  return { s.push (.scalar .plain text) with position := p, keyAllowed := broken }

/-- With a block scalar. -/
def block (s : Scan) (style : Style) : Option Scan := do
  let s ← s.dropKey
  let (text, p) ← block? (style = .literal) s.bound s.position
  return { s.push (.scalar style text) with position := p, keyAllowed := true }

/-! ## Scanning -/

/-- At the next character that is no white space and in no comment.  A tab stands only
where no key may start, and a line can start with a key.  Every line takes fuel. -/
def toToken : Nat → Scan → Scan
  | 0, s => s
  | fuel + 1, s =>
      let tabs := s.inFlow || !s.keyAllowed
      let p := s.position.skipWhile fun c => c = ' ' || (tabs && c = '\t')
      let p := if p.rest.head? = some '#' then p.skipWhile (!isBreak ·) else p
      if p.rest.head?.any isBreak then
        toToken fuel { s with position := p.readBreak.2, keyAllowed := s.keyAllowed || !s.inFlow }
      else { s with position := p }

/-- With the token at the next character. -/
def token (s : Scan) : Option Scan :=
  match s.position.rest with
  | [] => none
  | c :: rest =>
      if s.position.column = 0 ∧ c = '%' then s.directive
      else if s.position.atTriple '-' then s.document .documentStart
      else if s.position.atTriple '.' then s.document .documentEnd
      else if c = '[' then s.openFlow .openBracket
      else if c = '\x7b' then s.openFlow .openBrace
      else if c = ']' then s.closeFlow .closeBracket
      else if c = '\x7d' then s.closeFlow .closeBrace
      else if c = ',' then s.comma
      else if c = '-' ∧ atGap rest then s.dash
      else if c = '?' ∧ (s.inFlow ∨ atGap rest) then s.key
      else if c = ':' ∧ (s.inFlow ∨ atGap rest) then s.value
      else if c = '*' then s.reference .repeated
      else if c = '&' then s.reference .name
      else if c = '!' then s.tag
      else if c = '|' ∧ !s.inFlow then s.block .literal
      else if c = '>' ∧ !s.inFlow then s.block .folded
      else if c = '"' ∨ c = '\'' then s.quoted
      else if startsPlain s.inFlow (c :: rest) then s.plain
      else none

/-- At the end of the text, with all blocks closed. -/
def finish (s : Scan) : Option Scan :=
  let p := s.position
  let p := if p.column = 0 then p else { p with line := p.line + 1, column := 0 }
  ({ s with position := p }.closeBlocks 0).dropKey

/-- With all tokens up to the end of the text.  Every token takes some fuel and some
text. -/
def run : Nat → Scan → Option Scan
  | 0, _ => none
  | fuel + 1, s => do
      let s ← (toToken s.position.rest.length s).dropLongKeys
      let s := s.closeBlocks (s.position.column + 1)
      if s.position.rest.isEmpty then s.finish
      else run fuel (← s.token)

end Scan

/-- **The tokens of a text**, unless it is not YAML. -/
def tokens? (text : List Char) : Option (List Token) := do
  guard (text.all isAllowed)
  let text := if text.head? = some '\ufeff' then text.tail else text
  let last ← Scan.run (text.length + 1) { position := ⟨text, 0, 0, 0⟩ }
  return last.tokens.reverse

end PromptPipeline.Yaml
