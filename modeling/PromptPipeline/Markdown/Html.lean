/-
# Markdown.Html -- HTML in a marked up text

HTML is recognised to be left out.  A block of it starts at a line that opens one
of some constructs and ends at a mark of that construct or at a blank line; in a
paragraph it is a tag, a comment, an instruction, a declaration or a section of
character data.
-/
import PromptPipeline.Markdown.Line

namespace PromptPipeline.Markdown.Html

set_option autoImplicit false

/-! ## Tags -/

/-- What follows the first `needle` in a text. -/
def afterFirst? (needle : List Char) : List Char → Option (List Char)
  | [] => if needle.isEmpty then some [] else none
  | c :: rest =>
      match Text.afterLead? needle (c :: rest) with
      | some after => some after
      | none => afterFirst? needle rest

/-- White space between the parts of a tag. -/
def isGap (c : Char) : Bool := isSpace c || c = '\n'

/-- Without white space at the start. -/
def skipGap (s : List Char) : List Char := s.dropWhile isGap

/-- Whether a character can start the name of an attribute. -/
def startsAttribute (c : Char) : Bool := c.isAlpha || c = '_' || c = ':'

/-- Whether a character can stand in the name of an attribute. -/
def inAttribute (c : Char) : Bool := c.isAlphanum || ['_', ':', '.', '-'].contains c

/-- Whether a character can stand in a value without quotes. -/
def inBareValue (c : Char) : Bool :=
  !isGap c && !(['"', '\'', '=', '<', '>', '\x60'].contains c)

/-- What follows the value of an attribute. -/
def afterValue? (s : List Char) : Option (List Char) :=
  match s with
  | '"' :: rest => afterFirst? ['"'] rest
  | '\'' :: rest => afterFirst? ['\''] rest
  | c :: rest => if inBareValue c then some (rest.dropWhile inBareValue) else none
  | [] => none

/-- What follows an attribute. -/
def afterAttribute? (s : List Char) : Option (List Char) :=
  match s with
  | [] => none
  | c :: rest =>
      if startsAttribute c then
        let rest := rest.dropWhile inAttribute
        match skipGap rest with
        | '=' :: value => afterValue? (skipGap value)
        | _ => some rest
      else none

/-- What follows the attributes and the end of an opening tag.  Each attribute
takes some fuel and some text. -/
def afterAttributes? : Nat → List Char → Option (List Char)
  | 0, _ => none
  | fuel + 1, s =>
      match skipGap s with
      | '>' :: rest => some rest
      | '/' :: '>' :: rest => some rest
      | next =>
          if next.length = s.length then none
          else
            match afterAttribute? next with
            | some rest => afterAttributes? fuel rest
            | none => none

/-- What follows a tag that is read from behind its `<`. -/
def afterTag? (s : List Char) : Option (List Char) :=
  match s with
  | '/' :: c :: rest =>
      if c.isAlpha then
        match skipGap (rest.dropWhile fun d => d.isAlphanum || d = '-') with
        | '>' :: after => some after
        | _ => none
      else none
  | c :: rest =>
      if c.isAlpha then
        let rest := rest.dropWhile fun d => d.isAlphanum || d = '-'
        afterAttributes? (rest.length + 1) rest
      else none
  | [] => none

/-! ## In a paragraph -/

/-- What follows a comment that is read from behind its `<!--`. -/
def afterComment? (s : List Char) : Option (List Char) :=
  match s with
  | '>' :: rest => some rest
  | '-' :: '>' :: rest => some rest
  | s => afterFirst? "-->".toList s

/-- What follows a piece of HTML that is read from behind its `<`. -/
def afterInline? (s : List Char) : Option (List Char) :=
  match s with
  | '?' :: rest => afterFirst? "?>".toList rest
  | '!' :: '-' :: '-' :: rest => afterComment? rest
  | '!' :: rest =>
      match Text.afterLead? "[CDATA[".toList rest with
      | some data => afterFirst? "]]>".toList data
      | none => if rest.head?.any Char.isAlpha then afterFirst? ['>'] rest else none
  | s => afterTag? s

/-! ## Blocks -/

/-- Tags that open a block up to their own closing tag, whatever is in it. -/
def rawTags : List String := ["pre", "style", "script", "textarea"]

/-- Tags that open a block up to a blank line. -/
def blockTags : List String :=
  ["address", "article", "aside", "base", "basefont", "blockquote", "body", "caption", "center",
   "col", "colgroup", "dd", "details", "dialog", "dir", "div", "dl", "dt", "fieldset",
   "figcaption", "figure", "footer", "form", "frame", "frameset", "h1", "h2", "h3", "h4", "h5",
   "h6", "head", "header", "hr", "html", "iframe", "legend", "li", "link", "main", "menu",
   "menuitem", "nav", "noframes", "ol", "optgroup", "option", "p", "param", "search", "section",
   "summary", "table", "tbody", "td", "tfoot", "th", "thead", "title", "tr", "track", "ul"]

/-- Whether a line that starts with `<` and goes on with `s` opens a block up to the
closing tag of `tag`. -/
def opensRaw (s : List Char) (tag : String) : Bool :=
  (s.take tag.length).map Char.toLower == tag.toList
    && (s.drop tag.length).head?.all fun c => isSpace c || c = '>'

/-- The text whose line ends the block that is opened by a line with `<` and then
`s`, unless a blank line ends it. -/
def blockEnd? (s : List Char) : Option (List Char) :=
  match rawTags.find? (opensRaw s) with
  | some tag => some ("</" ++ tag ++ ">").toList
  | none =>
      match s with
      | '!' :: '-' :: '-' :: _ => some "-->".toList
      | '?' :: _ => some "?>".toList
      | '!' :: rest =>
          if "[CDATA[".toList.isPrefixOf rest then some "]]>".toList
          else if rest.head?.any Char.isUpper then some ['>']
          else none
      | _ => none

/-- Whether a line with `<` and then `s` opens a block up to a blank line also where
a paragraph is open. -/
def opensBlock (s : List Char) : Bool :=
  let tail := if s.head? = some '/' then s.tail else s
  let name := tail.takeWhile Char.isAlphanum
  let after := tail.drop name.length
  blockTags.contains (String.ofList (name.map Char.toLower))
    && (after.isEmpty || after.head?.any [' ', '\t', '>'].contains || ['/', '>'].isPrefixOf after)

/-- Whether a line with `<` and then `s` has a tag and nothing else. -/
def isLoneTag (s : List Char) : Bool := (afterTag? s).any isBlankLine

end PromptPipeline.Markdown.Html
