/-
# Markdown.Link -- labels, targets and titles of links

A link names its target in parentheses or through a label that a definition
elsewhere in the document gives a target.  Labels are compared without regard to
case, and with every run of white space as one space.
-/
import PromptPipeline.Markdown.Entity
import PromptPipeline.Markdown.Line

namespace PromptPipeline.Markdown.Link

set_option autoImplicit false

/-! ## Escapes -/

/-- Whether a character is ASCII punctuation, which a backslash makes literal. -/
def isPunctuation (c : Char) : Bool :=
  ('!' ≤ c ∧ c ≤ '/') ∨ (':' ≤ c ∧ c ≤ '@') ∨ ('[' ≤ c ∧ c ≤ '\x60') ∨ ('\x7b' ≤ c ∧ c ≤ '~')

/-- A text with its escapes and character references resolved.  Every step takes
some fuel and some text. -/
def unescapeWith : Nat → List Char → List Char
  | 0, s => s
  | _ + 1, [] => []
  | fuel + 1, '\\' :: c :: rest =>
      if isPunctuation c then c :: unescapeWith fuel rest
      else '\\' :: unescapeWith fuel (c :: rest)
  | fuel + 1, '&' :: rest =>
      match Entity.read? rest with
      | some (text, after) => text ++ unescapeWith fuel after
      | none => '&' :: unescapeWith fuel rest
  | fuel + 1, c :: rest => c :: unescapeWith fuel rest

/-- A text with its escapes and character references resolved. -/
def unescape (s : List Char) : List Char := unescapeWith s.length s

/-! ## Labels -/

/-- White space in a label. -/
def isGap (c : Char) : Bool := isSpace c || c = '\n'

/-- The characters of a label up to its closing bracket, and what follows that.  A
bracket in a label is escaped. -/
def labelChars? : List Char → Option (List Char × List Char)
  | [] => none
  | ']' :: rest => some ([], rest)
  | '[' :: _ => none
  | '\\' :: c :: rest => (labelChars? rest).map fun (label, after) => ('\\' :: c :: label, after)
  | c :: rest => (labelChars? rest).map fun (label, after) => (c :: label, after)

/-- The form in which labels are compared. -/
def normalLabel (label : List Char) : List Char :=
  Text.joinWith [' '] (Text.runsBetween isGap (label.flatMap Unicode.foldCase))

/-- The normal form of a label that is read from behind its bracket, and what
follows it.  A label has something else than white space and at most 999
characters. -/
def label? (s : List Char) : Option (List Char × List Char) := do
  let (label, rest) ← labelChars? s
  guard (label.length < 1000 ∧ !label.all isGap)
  return (normalLabel label, rest)

/-! ## Targets and titles -/

/-- A target in angle brackets, as written, from behind the first of them. -/
def pointedTarget? : List Char → Option (List Char × List Char)
  | [] => none
  | '>' :: rest => some ([], rest)
  | '<' :: _ => none
  | '\n' :: _ => none
  | '\\' :: c :: rest =>
      if isPunctuation c then
        (pointedTarget? rest).map fun (target, after) => ('\\' :: c :: target, after)
      else (pointedTarget? (c :: rest)).map fun (target, after) => ('\\' :: target, after)
  | c :: rest => (pointedTarget? rest).map fun (target, after) => (c :: target, after)

/-- A target without angle brackets, as written, where `opened` parentheses are
open; no more than `limit` and one may be.  It ends at a space, a control character
or a parenthesis that closes none of its own. -/
def bareTarget? (limit opened : Nat) : List Char → Option (List Char × List Char)
  | [] => if opened = 0 then some ([], []) else none
  | '\\' :: c :: rest =>
      if isPunctuation c then
        (bareTarget? limit opened rest).map fun (target, after) => ('\\' :: c :: target, after)
      else (bareTarget? limit opened (c :: rest)).map fun (target, after) => ('\\' :: target, after)
  | '(' :: rest =>
      if opened > limit then none
      else (bareTarget? limit (opened + 1) rest).map fun (target, after) => ('(' :: target, after)
  | ')' :: rest =>
      match opened with
      | 0 => some ([], ')' :: rest)
      | opened + 1 =>
          (bareTarget? limit opened rest).map fun (target, after) => (')' :: target, after)
  | c :: rest =>
      if c ≤ ' ' then if opened = 0 then some ([], c :: rest) else none
      else (bareTarget? limit opened rest).map fun (target, after) => (c :: target, after)

/-- A target, as written, and what follows it. -/
def target? (limit : Nat) (s : List Char) : Option (List Char × List Char) :=
  match s with
  | '<' :: rest => pointedTarget? rest
  | _ => bareTarget? limit 0 s

/-- What follows a title that ends at `close` and can not have `other` in it. -/
def afterTitleEnd? (close : Char) (other : Option Char) : List Char → Option (List Char)
  | [] => none
  | '\\' :: c :: rest =>
      if isPunctuation c then afterTitleEnd? close other rest
      else afterTitleEnd? close other (c :: rest)
  | c :: rest =>
      if c = close then some rest
      else if some c = other then none
      else afterTitleEnd? close other rest

/-- What follows a title, if a text starts with one. -/
def afterTitle? (s : List Char) : Option (List Char) :=
  match s with
  | '"' :: rest => afterTitleEnd? '"' none rest
  | '\'' :: rest => afterTitleEnd? '\'' none rest
  | '(' :: rest => afterTitleEnd? ')' (some '(') rest
  | _ => none

/-- Without the white space at the start, which may have one line end, and how many
line ends it has. -/
def skipGap (s : List Char) : Nat × List Char :=
  match s.dropWhile isSpace with
  | '\n' :: rest => (1, rest.dropWhile isSpace)
  | rest => (0, rest)

/-- The target of a link whose text has just been closed, if it stands there in
parentheses, and what follows them. -/
def inline? (s : List Char) : Option (List Char × List Char) :=
  match s with
  | '(' :: rest => do
      let (target, rest) ← target? 32 (skipGap rest).2
      let rest := (skipGap rest).2
      let rest := match afterTitle? rest with
        | some after => (skipGap after).2
        | none => rest
      match rest with
      | ')' :: after => return (unescape target, after)
      | _ => none
  | _ => none

/-! ## Definitions -/

/-- A label in its normal form with its target. -/
structure Definition where
  label : List Char
  target : List Char
deriving Repr, DecidableEq

/-- The target that definitions give a label; the first one counts. -/
def find? (definitions : List Definition) (label : List Char) : Option (List Char) :=
  (definitions.find? fun d => d.label == label).map Definition.target

/-- What follows a line whose rest is blank. -/
def afterBlankLine? (s : List Char) : Option (List Char) :=
  match s.dropWhile isSpace with
  | [] => some []
  | '\n' :: rest => some rest
  | _ => none

/-- The definition at the start of a text, and the lines that follow it.  It takes
whole lines; its title may stand on a line of its own, and where that line has
something else too, the definition has no title. -/
def definition? (s : List Char) : Option (Definition × List Char) :=
  match s with
  | '[' :: rest => do
      let (label, rest) ← label? rest
      match rest with
      | ':' :: rest =>
          let gap := (skipGap rest).2
          let (target, after) ← target? 1 gap
          guard (after.length < gap.length)
          let found : Definition := ⟨label, unescape target⟩
          let title := (skipGap after).2
          match (afterTitle? title).bind afterBlankLine? with
          | some rest => if title.length < after.length then return (found, rest) else none
          | none => (afterBlankLine? after).map fun rest => (found, rest)
      | _ => none
  | _ => none

end PromptPipeline.Markdown.Link
