/-
# Directive.Url -- `PROMPTBOOK URL`

The URL under which the pipeline is published.  The first one wins.
-/
import PromptPipeline.Directive.Basic
import PromptPipeline.Url.Reader

namespace PromptPipeline.Directive.Url

set_option autoImplicit false

/-- The name of the directive. -/
def name : String := "PROMPTBOOK_URL"

/-- Exactly one argument, an absolute https URL. -/
def parse (check : String → Except PromptPipeline.Url.Fault String) (a : Arguments) :
    Except ParseError Command := do
  let url ← a.single name
  match check url with
  | .error fault => throw (.invalidArguments (.invalidUrl url fault))
  | .ok scheme =>
      if scheme = "https" then return .url url
      else throw (.invalidArguments (.urlNotHttps url))

/-- The line of the command. -/
def write : Command → Except ParseError String
  | .url url => .ok ("PROMPTBOOK URL " ++ url)
  | other => .error (.wrongCommand name other.kind)

/-- Set the URL unless there is one. -/
def onHead : Command → Edit Pipeline
  | .url url, p =>
      match p.url with
      | some existing => ⟨[.alreadySet name url existing], .ok p⟩
      | none => .ok { p with url := some url }
  | other, p => refuse (.wrongCommand name other.kind) p

/-- The URL of a pipeline. -/
def fromHead (p : Pipeline) : List Command := p.url.toList.map .url

end Url

/-- The URL of the pipeline, with a check of URLs. -/
def urlWith (check : String → Except PromptPipeline.Url.Fault String) : Directive where
  name := Url.name
  aliases := ["URL"]
  places := [.head]
  description := "Unique URL under which the pipeline is published"
  documentation := documentationUrl
  examples := [
    "PROMPTBOOK URL https://promptbook.studio/library/write-cv.ptbk.md",
    "URL https://example.com/promptbook.json" ]
  produces := [.url]
  parse := Url.parse check
  write := Url.write
  onHead := some Url.onHead
  onTemplate := none
  fromHead := some Url.fromHead
  fromTemplate := none

/-- The URL of the pipeline. -/
def url : Directive := urlWith PromptPipeline.Url.check

end PromptPipeline.Directive
