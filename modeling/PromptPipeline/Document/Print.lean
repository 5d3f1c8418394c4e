/-
# Document.Print -- pipelines as documents

Every directive takes its commands back from the pipeline or a template, in
catalog order, and they are written as list items.  Prose is escaped where a line
would open something other than a paragraph, and a body gets a fence longer than
any run of backticks in it.
-/
import PromptPipeline.Grammar.Basic

namespace PromptPipeline.Document

set_option autoImplicit false

/-! ## Prose -/

/-- The lines of a text.  A carriage return before a line feed belongs to the line
end, and a line end at the end opens no further line. -/
def linesOf (s : List Char) : List (List Char) :=
  let pieces := Text.splitAt (· == '\n') s
  let ended := pieces.dropLast.map fun line =>
    if line.getLast? = some '\r' then line.dropLast else line
  ended ++ (pieces.getLast?.toList.filter (!·.isEmpty))

/-- Whether a character would open a block other than a paragraph. -/
def opensBlock (c : Char) : Bool := ['#', '>', '<', '-', '+', '*', '_', '=', '~'].contains c

/-- A line of prose that stays prose: without white space at the start, and with a
backslash in what would open a list, a fence or another block. -/
def escapeLine (line : List Char) : List Char :=
  let line := Text.dropLeading Unicode.isBlank line
  let digits := line.takeWhile Char.isDigit
  match digits, line.drop digits.length with
  | _ :: _, '.' :: rest => digits ++ '\\' :: '.' :: rest
  | _ :: _, ')' :: rest => digits ++ '\\' :: ')' :: rest
  | _, _ =>
      match line with
      | [] => []
      | '`' :: _ =>
          ((line.takeWhile (· == '`')).flatMap fun c => ['\\', c]) ++ line.dropWhile (· == '`')
      | c :: rest => if opensBlock c then '\\' :: c :: rest else c :: rest

/-- The block of a description, if it is not blank. -/
def descriptionBlock (description : Option String) : List String :=
  match description with
  | none => []
  | some d =>
      if Text.blank d then []
      else [String.ofList (Text.joinWith ['\n'] ((linesOf d.toList).map escapeLine))]

/-- A title whose hash signs at the end are not read as the end of the heading. -/
def escapeHeading (title : String) : String :=
  let bare := Text.dropTrailing (· == '#') title.toList
  let signs := title.toList.drop bare.length
  if signs.isEmpty then title else String.ofList (bare ++ '\\' :: signs)

/-! ## Bodies -/

/-- The length of the longest run of backticks, where one of length `run` has just
been read. -/
def longestRun (run : Nat) : List Char → Nat
  | [] => run
  | c :: rest => if c = '`' then longestRun (run + 1) rest else max run (longestRun 0 rest)

/-- A fence that no line of a body closes. -/
def fence (content : String) : String :=
  String.ofList (List.replicate (max (longestRun 0 content.toList + 1) 3) '`')

/-! ## Documents -/

/-- The block of a list of commands. -/
def listBlock (lines : List String) : List String :=
  if lines.isEmpty then [] else [Text.join "\n" (lines.map ("- " ++ ·))]

/-- The lines of commands. -/
def commandLines (g : Grammar) (commands : List Command) : Except ParseError (List String) :=
  commands.mapM g.write

/-- The commands of a head, in catalog order. -/
def headCommands (g : Grammar) (p : Pipeline) : List Command :=
  g.directives.flatMap fun d => (d.fromHead.map (· p)).getD []

/-- The commands of a template, in catalog order. -/
def templateCommands (g : Grammar) (draft : Draft) : List Command :=
  g.directives.flatMap fun d => (d.fromTemplate.map (· draft)).getD []

/-- The blocks of a template. -/
def templateBlocks (g : Grammar) (p : Pipeline) (t : Template) :
    Except ParseError (List String) := do
  let lines ← commandLines g (templateCommands g ⟨t, p⟩)
  let marks := fence t.content
  return ["## " ++ escapeHeading t.title] ++ descriptionBlock t.description ++ listBlock lines
    ++ [marks ++ t.language.getD "" ++ "\n" ++ t.content ++ "\n" ++ marks,
      "-> " ++ braced t.result]

/-- **The document of a pipeline.** -/
def print (g : Grammar) (p : Pipeline) : Except ParseError String := do
  let lines ← commandLines g (headCommands g p)
  let templates ← p.templates.mapM (templateBlocks g p)
  let blocks :=
    (if p.title.isEmpty then [] else ["# " ++ escapeHeading p.title])
      ++ descriptionBlock p.description ++ listBlock lines ++ templates.flatten
  return Text.join "\n\n" blocks ++ "\n"

end PromptPipeline.Document
