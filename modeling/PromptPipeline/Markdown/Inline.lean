/-
# Markdown.Inline -- what stands in a paragraph or a heading

The text of a block is read from left to right.  Code spans, automatic links and
HTML bind tighter than links, and links bind tighter than emphasis.  A bracket that
opens a link waits on a stack until it is closed; what is between becomes one piece.
-/
import PromptPipeline.Markdown.Emphasis
import PromptPipeline.Markdown.Link
import PromptPipeline.Markdown.Html

namespace PromptPipeline.Markdown.Inline

set_option autoImplicit false

/-! ## Code spans -/

/-- The text up to a run of exactly `n` backticks, and what follows that run.  So
far `before` has been read, last first, which ends in `run` backticks. -/
def untilTicks? (n run : Nat) (before : List Char) : List Char → Option (List Char × List Char)
  | [] => if run = n then some ((before.drop n).reverse, []) else none
  | c :: rest =>
      if c = '\x60' then untilTicks? n (run + 1) (c :: before) rest
      else if run = n then some ((before.drop n).reverse, c :: rest)
      else untilTicks? n 0 (c :: before) rest

/-- The content of a code span: line ends are spaces, and one space goes at each end
if both ends have one and there is something else. -/
def codeContent (s : List Char) : List Char :=
  let s := s.map fun c => if c = '\n' then ' ' else c
  if s.head? = some ' ' ∧ s.getLast? = some ' ' ∧ !s.all (· = ' ') then s.tail.dropLast else s

/-! ## Automatic links -/

/-- The absolute address up to a closing angle bracket, and what follows it. -/
def address? (s : List Char) : Option (List Char × List Char) :=
  let scheme := s.takeWhile fun c => c.isAlphanum || ['+', '-', '.'].contains c
  if !s.head?.any Char.isAlpha ∨ scheme.length < 2 ∨ 32 < scheme.length then none
  else
    match s.drop scheme.length with
    | ':' :: rest =>
        let path := rest.takeWhile fun c => ' ' < c && c ≠ '<' && c ≠ '>'
        match rest.drop path.length with
        | '>' :: after => some (scheme ++ ':' :: path, after)
        | _ => none
    | _ => none

/-- Whether a character can stand before the at sign of a mail address. -/
def inMailbox (c : Char) : Bool :=
  c.isAlphanum || ".!#$%&'*+/=?^_\x60\x7b|\x7d~-".toList.contains c

/-- Whether a text is a label of a mail domain. -/
def isMailLabel (s : List Char) : Bool :=
  0 < s.length && s.length ≤ 63 && s.all (fun c => c.isAlphanum || c = '-')
    && s.head? ≠ some '-' && s.getLast? ≠ some '-'

/-- The mail address up to a closing angle bracket, and what follows it. -/
def mailAddress? (s : List Char) : Option (List Char × List Char) :=
  let mailbox := s.takeWhile inMailbox
  match mailbox, s.drop mailbox.length with
  | _ :: _, '@' :: rest =>
      let domain := rest.takeWhile (· ≠ '>')
      match rest.drop domain.length with
      | '>' :: after =>
          if (Text.splitAt (· = '.') domain).all isMailLabel then
            some (mailbox ++ '@' :: domain, after)
          else none
      | _ => none
  | _, _ => none

/-- What stands between angle brackets as a link to itself. -/
def autolink? (s : List Char) : Option (List Char × List Char) :=
  (address? s).orElse fun _ => mailAddress? s

/-! ## Brackets -/

/-- A bracket that waits to be closed: whether it opens an image, whether it can
still open a link, the text behind it and the pieces before it, last first. -/
structure Bracket where
  isImage : Bool
  active : Bool
  behind : List Char
  before : List Piece
deriving Repr, DecidableEq

/-- What has been read: the brackets that wait, innermost first, the pieces since
the innermost, last first, and the length of the text behind a closing bracket that
does not end a reference. -/
structure Reading where
  brackets : List Bracket := []
  pieces : List Piece := []
  spent : Option Nat := none
deriving Repr, DecidableEq

namespace Reading

/-- With one more piece. -/
def push (r : Reading) (piece : Piece) : Reading := { r with pieces := piece :: r.pieces }

/-- With some more text. -/
def pushText (r : Reading) (s : List Char) : Reading := r.push (.events [.text s])

/-- With a waiting bracket. -/
def openBracket (r : Reading) (isImage : Bool) (behind : List Char) : Reading :=
  { r with brackets := ⟨isImage, true, behind, r.pieces⟩ :: r.brackets, pieces := [] }

end Reading

/-- The text of a bracket that opens nothing. -/
def Bracket.literal (b : Bracket) : Piece :=
  .events [.text (if b.isImage then ['!', '['] else ['['])]

/-- No link can hold another one. -/
def deactivate (brackets : List Bracket) : List Bracket :=
  brackets.map fun b => if b.isImage then b else { b with active := false }

/-- With the link or image that starts at bracket `b` and has `target`. -/
def Reading.finishLink (r : Reading) (b : Bracket) (outer : List Bracket) (target : List Char) :
    Reading :=
  let inner := Emphasis.settle r.pieces.reverse
  let tag := if b.isImage then Tag.image else .link (String.ofList target)
  { r with
    brackets := if b.isImage then outer else deactivate outer
    pieces := .events (Event.wrap tag 0 inner) :: b.before }

/-- With bracket `b` and the closing one as text. -/
def Reading.dissolveLink (r : Reading) (b : Bracket) (outer : List Bracket) : Reading :=
  { r with
    brackets := outer
    pieces := .events [.text [']']] :: (r.pieces ++ b.literal :: b.before) }

/-- The label that stands between a bracket and the closing one with `rest` behind. -/
def Bracket.label? (b : Bracket) (rest : List Char) : Option (List Char) :=
  match Link.label? b.behind with
  | some (label, after) => if after.length = rest.length then some label else none
  | none => none

/-- What a reference behind a closing bracket comes to: its target, if there is one,
what follows it, and whether the reference spells a label of its own. -/
def reference? (definitions : List Link.Definition) (b : Bracket) (isSpent : Bool)
    (rest : List Char) : Option (List Char) × List Char × Bool :=
  let own (after : List Char) : Option (List Char) × List Char × Bool :=
    if isSpent then (none, after, false)
    else ((b.label? rest).bind (Link.find? definitions), after, false)
  match rest with
  | '[' :: ']' :: after => own after
  | '[' :: label =>
      match Link.label? label with
      | some (label, after) => (Link.find? definitions label, after, true)
      | none => own rest
  | _ => own rest

/-- What has been read, and what is left, after a closing bracket with `rest`
behind it. -/
def closeBracket (definitions : List Link.Definition) (r : Reading) (rest : List Char) :
    Reading × List Char :=
  match r.brackets with
  | [] => (r.pushText [']'], rest)
  | b :: outer =>
      if !b.active then (r.dissolveLink b outer, rest)
      else
        match Link.inline? rest with
        | some (target, after) => (r.finishLink b outer target, after)
        | none =>
            match reference? definitions b (r.spent = some rest.length) rest with
            | (some target, after, _) => (r.finishLink b outer target, after)
            | (none, after, true) =>
                ({ r.dissolveLink b outer with spent := some after.length }, rest)
            | (none, _, false) => (r.dissolveLink b outer, rest)

/-! ## Reading -/

/-- Whether a character stands for itself wherever it is. -/
def isPlain (c : Char) : Bool :=
  !isSpace c && !(['\n', '\\', '&', '\x60', '<', '!', '[', ']', '*', '_', '\x00'].contains c)

/-- Spaces and tabs at the start of a line do not count. -/
def skipIndent (s : List Char) : List Char := s.dropWhile fun c => c = ' ' || c = '\t'

/-- A line break. -/
def lineBreak : Piece := .events [.lineBreak]

/-- The pieces of a text that are left after `read`, where `before` is the character
before the text.  Every step takes some fuel and some text. -/
def read (definitions : List Link.Definition) : Nat → Reading → Char → List Char → Reading
  | 0, r, _, _ => r
  | _ + 1, r, _, [] => r
  | fuel + 1, r, before, c :: rest =>
      match c with
      | '\n' => read definitions fuel (r.push lineBreak) c (skipIndent rest)
      | '\\' =>
          match rest with
          | '\n' :: after => read definitions fuel (r.push lineBreak) '\n' (skipIndent after)
          | d :: after =>
              if Link.isPunctuation d then read definitions fuel (r.pushText [d]) d after
              else read definitions fuel (r.pushText [c]) c rest
          | [] => r.pushText [c]
      | '&' =>
          match Entity.read? rest with
          | some (text, after) => read definitions fuel (r.pushText text) ';' after
          | none => read definitions fuel (r.pushText [c]) c rest
      | '\x60' =>
          let more := rest.takeWhile (· = '\x60')
          let behind := rest.drop more.length
          match untilTicks? (more.length + 1) 0 [] behind with
          | some (content, after) =>
              read definitions fuel (r.push (.events [.code (codeContent content)])) c after
          | none => read definitions fuel (r.pushText (c :: more)) c behind
      | '<' =>
          match autolink? rest with
          | some (target, after) =>
              let link := Event.wrap (.link (String.ofList target)) 0 [.text target]
              read definitions fuel (r.push (.events link)) '>' after
          | none =>
              match Html.afterInline? rest with
              | some after => read definitions fuel r '>' after
              | none => read definitions fuel (r.pushText [c]) c rest
      | '!' =>
          match rest with
          | '[' :: after => read definitions fuel (r.openBracket true after) '[' after
          | _ => read definitions fuel (r.pushText [c]) c rest
      | '[' => read definitions fuel (r.openBracket false rest) c rest
      | ']' =>
          let (r, after) := closeBracket definitions r rest
          read definitions fuel r (if after.length = rest.length then c else ')') after
      | '\x00' => read definitions fuel (r.pushText ['\ufffd']) c rest
      | _ =>
          if c = '*' ∨ c = '_' then
            let more := rest.takeWhile (· = c)
            let behind := rest.drop more.length
            let piece := Emphasis.run c (more.length + 1) before (behind.head?.getD ' ')
            read definitions fuel (r.push piece) c behind
          else if isSpace c then
            let more := rest.takeWhile isSpace
            let behind := rest.drop more.length
            if behind.head?.all (· = '\n') then read definitions fuel r c behind
            else read definitions fuel (r.pushText (c :: more)) ((c :: more).getLastD c) behind
          else
            let more := rest.takeWhile isPlain
            read definitions fuel (r.pushText (c :: more)) ((c :: more).getLastD c)
              (rest.drop more.length)

/-- The pieces of what has been read, with the waiting brackets as text. -/
def Reading.finish (r : Reading) : List Piece :=
  (r.brackets.foldl (fun pieces b => pieces ++ b.literal :: b.before) r.pieces).reverse

/-- The events of the text of a block. -/
def events (definitions : List Link.Definition) (text : List Char) : List Event :=
  Emphasis.settle (read definitions text.length {} ' ' text).finish

end PromptPipeline.Markdown.Inline
