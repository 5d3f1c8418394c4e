/-
# Directive.Knowledge -- `KNOWLEDGE`

Registers a source of knowledge; in a template it also links the template to it.
A source is named by its content, so one that is written twice is one source, and
two different sources of one name conflict.
-/
import PromptPipeline.Directive.Basic
import PromptPipeline.Url.Reader

namespace PromptPipeline.Directive.Knowledge

set_option autoImplicit false

/-- The name of the directive. -/
def name : String := "KNOWLEDGE"

/-! ## Names of sources -/

/-- The longest part of a source name after its prefix, in bytes. -/
def longestName : Nat := 48

/-- The characters at the start that fit into a number of bytes. -/
def takeBytes : Nat → List Char → List Char
  | _, [] => []
  | room, c :: rest =>
      if c.utf8Size ≤ room then c :: takeBytes (room - c.utf8Size) rest else []

/-- **The name under which a source is registered.** -/
def sourceName (content : String) : String :=
  let kebab := Name.kebabChars content.toList
  let short :=
    if longestName < Text.byteLength kebab then
      Text.dropTrailing (· == '-') (takeBytes longestName kebab)
    else kebab
  String.ofList ("source-".toList ++ short)

/-! ## The command -/

/-- One token, or the rest of the line if there are more; a source that looks like
a URL must be an https URL. -/
def parse (check : String → Except PromptPipeline.Url.Fault String) (a : Arguments) :
    Except ParseError Command := do
  let source ←
    match a.words with
    | [] => throw (.invalidArguments .noSource)
    | [word] => pure word
    | _ => pure (a.sourceFrom 0)
  if Text.startsWith "http://" source then throw (.invalidArguments (.sourceNotHttps source))
  else if Text.startsWith "https://" source then
    match check source with
    | .error fault => throw (.invalidArguments (.invalidSourceUrl source fault))
    | .ok _ => return .knowledge source
  else return .knowledge source

/-- The line of the command. -/
def write : Command → Except ParseError String
  | .knowledge source => .ok ("KNOWLEDGE " ++ source)
  | other => .error (.wrongCommand name other.kind)

/-- The pipeline with a source registered, or the conflict with the one that has its
name. -/
def register (source : String) (p : Pipeline) : Except Conflict Pipeline :=
  match p.source? (sourceName source) with
  | some existing =>
      if existing.content = source then .ok p
      else .error (.source existing.content source (sourceName source))
  | none =>
      .ok { p with
        knowledge := p.knowledge ++ [{ name := sourceName source, content := source }] }

/-- Register the source. -/
def onHead : Command → Edit Pipeline
  | .knowledge source, p =>
      match register source p with
      | .ok registered => .ok registered
      | .error clash => refuse (.conflict clash) p
  | other, p => refuse (.wrongCommand name other.kind) p

/-- Register the source and link the template to it. -/
def onTemplate : Command → Edit Draft
  | .knowledge source, d =>
      match register source d.pipeline with
      | .ok registered =>
          let linked :=
            if d.template.knowledge.contains (sourceName source) then d.template.knowledge
            else d.template.knowledge ++ [sourceName source]
          .ok ⟨{ d.template with knowledge := linked }, registered⟩
      | .error clash => refuse (.conflict clash) d
  | other, d => refuse (.wrongCommand name other.kind) d

/-- The sources of a pipeline. -/
def fromHead (p : Pipeline) : List Command := p.knowledge.map fun s => .knowledge s.content

/-- The sources that a template is linked to. -/
def fromTemplate (d : Draft) : List Command :=
  (d.template.knowledge.filterMap d.pipeline.source?).map fun s => .knowledge s.content

end Knowledge

/-- A source of knowledge, with a check of URLs. -/
def knowledgeWith (check : String → Except PromptPipeline.Url.Fault String) : Directive where
  name := Knowledge.name
  aliases := []
  places := [.head, .template]
  description := "Knowledge the templates can draw from: URL, file path or inline text"
  documentation := documentationUrl
  examples := [
    "KNOWLEDGE https://www.pavolhejny.com/",
    "KNOWLEDGE ./hejny-cv.md",
    "KNOWLEDGE Pavol Hejný is a web developer and creator of promptbook" ]
  produces := [.knowledge]
  parse := Knowledge.parse check
  write := Knowledge.write
  onHead := some Knowledge.onHead
  onTemplate := some Knowledge.onTemplate
  fromHead := some Knowledge.fromHead
  fromTemplate := some Knowledge.fromTemplate

/-- A source of knowledge. -/
def knowledge : Directive := knowledgeWith PromptPipeline.Url.check

end PromptPipeline.Directive
