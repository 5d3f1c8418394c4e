/-
# Markdown.Marker -- what opens a block

Every function looks at the rest of a line behind its indentation.
-/
import PromptPipeline.Markdown.Html
import PromptPipeline.Text.Digit

namespace PromptPipeline.Markdown.Marker

set_option autoImplicit false

/-! ## Rules, headings and fences -/

/-- Whether a line is a rule: three or more of one mark, with spaces between. -/
def isRule (s : List Char) : Bool :=
  match s with
  | [] => false
  | mark :: _ =>
      ['*', '-', '_'].contains mark && s.all (fun c => c = mark || c = ' ' || c = '\t')
        && 3 ≤ s.count mark

/-- The level and the text of a heading that starts with number signs.  Number signs
at its end do not count if a space is before them. -/
def heading? (s : List Char) : Option (Nat × List Char) :=
  let signs := s.takeWhile (· = '#')
  let rest := s.drop signs.length
  if signs.isEmpty ∨ 6 < signs.length ∨ !rest.head?.all isSpace then none
  else
    let text := Text.dropTrailing (· = ' ') (rest.dropWhile isSpace)
    let bare := Text.dropTrailing (· = '#') text
    if bare.isEmpty then some (signs.length, [])
    else if bare.getLast? = some ' ' then some (signs.length, Text.dropTrailing (· = ' ') bare)
    else some (signs.length, text)

/-- The level of the heading that a line under a paragraph makes of it. -/
def underline? (s : List Char) : Option Nat :=
  match s with
  | '=' :: rest => if isBlankLine (rest.dropWhile (· = '=')) then some 1 else none
  | '-' :: rest => if isBlankLine (rest.dropWhile (· = '-')) then some 2 else none
  | _ => none

/-- The mark of a fence that opens a code block, its length and the text behind it.
Behind backticks there is no further backtick. -/
def fence? (s : List Char) : Option (Char × Nat × List Char) :=
  match s with
  | [] => none
  | mark :: _ =>
      let length := (s.takeWhile (· = mark)).length
      let info := s.drop length
      if length < 3 then none
      else if mark = '~' ∨ (mark = '\x60' ∧ !info.contains '\x60') then some (mark, length, info)
      else none

/-- Whether a line closes the code block of a fence. -/
def closesFence (mark : Char) (length : Nat) (s : List Char) : Bool :=
  length ≤ (s.takeWhile (· = mark)).length && (s.dropWhile (· = mark)).all (· = ' ')

/-! ## List items -/

/-- The mark of a list item, its number, how many characters it takes and what
follows them.  The mark of a numbered item is the one behind the number. -/
def bullet? (s : List Char) : Option (Char × Nat × Nat × List Char) :=
  match s with
  | [] => none
  | c :: rest =>
      if c = '-' ∨ c = '+' ∨ c = '*' then some (c, 1, 1, rest)
      else
        let digits := s.takeWhile Char.isDigit
        if digits.isEmpty ∨ 9 < digits.length then none
        else
          match s.drop digits.length with
          | '.' :: after => some ('.', Text.readDigits 10 digits, digits.length + 1, after)
          | ')' :: after => some (')', Text.readDigits 10 digits, digits.length + 1, after)
          | _ => none

/-- The mark of the list item that starts at a cursor, where its content stands, in
columns from where the outer container's content starts, and the cursor there.  The
item is indented by `outer` columns.  One column of white space belongs to the mark
and three more can; if there are four more they belong to an indented code block. -/
def item? (outer : Nat) (c : Cursor) : Option (Char × Nat × Cursor) := do
  guard (!isRule c.rest)
  let (mark, _, size, after) ← bullet? c.rest
  let behind := c.advance size
  let behind ← if after.isEmpty then some behind else behind.pass?
  let width := outer + size + 1
  if isBlankLine behind.rest then return (mark, width, behind)
  let (more, content) := behind.indent 4
  return if more < 4 then (mark, width + more, content) else (mark, width, behind)

/-! ## Paragraphs -/

/-- Whether a line opens a list item where a paragraph is open.  In the container of
the paragraph a list has to start with one, and with an item that is not empty in
this line and the next. -/
def interruptsAsItem (inside : Bool) (next : List Line) (s : List Char) : Bool :=
  match bullet? s with
  | none => false
  | some (_, number, _, after) =>
      after.head?.all (fun c => c = ' ' || c = '\t')
        && (!inside
          || (number = 1
            && !(isBlankLine after && next.head?.all fun line => isBlankLine line.chars)))

/-- Whether a line ends a paragraph that is open, by opening another block. -/
def interrupts (inside : Bool) (next : List Line) (s : List Char) : Bool :=
  isRule s || (heading? s).isSome || (fence? s).isSome || s.head? = some '>'
    || interruptsAsItem inside next s
    || (s.head? = some '<' && ((Html.blockEnd? s.tail).isSome || Html.opensBlock s.tail))

end PromptPipeline.Markdown.Marker
