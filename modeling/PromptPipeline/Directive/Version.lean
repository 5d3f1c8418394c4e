/-
# Directive.Version -- `PROMPTBOOK VERSION`

The version of the language that the document is written in.  The first one wins.
-/
import PromptPipeline.Directive.Basic
import PromptPipeline.SemanticVersion

namespace PromptPipeline.Directive.Version

set_option autoImplicit false

/-- The name of the directive. -/
def name : String := "PROMPTBOOK_VERSION"

/-- Exactly one argument, a semantic version. -/
def parse (a : Arguments) : Except ParseError Command := do
  let version ← a.single name
  if SemanticVersion.isValid version then return .version version
  else throw (.invalidArguments (.invalidVersion version))

/-- The line of the command. -/
def write : Command → Except ParseError String
  | .version version => .ok ("PROMPTBOOK VERSION " ++ version)
  | other => .error (.wrongCommand name other.kind)

/-- Set the version unless there is one. -/
def onHead : Command → Edit Pipeline
  | .version version, p =>
      match p.version with
      | some existing => ⟨[.alreadySet name version existing], .ok p⟩
      | none => .ok { p with version := some version }
  | other, p => refuse (.wrongCommand name other.kind) p

/-- The version of a pipeline. -/
def fromHead (p : Pipeline) : List Command := p.version.toList.map .version

end Version

/-- The version of the language. -/
def version : Directive where
  name := Version.name
  aliases := ["VERSION"]
  places := [.head]
  description := "Which version of the pipeline language the document is written in"
  documentation := documentationUrl
  examples := ["PROMPTBOOK VERSION 1.0.0", "VERSION 0.61.0-10"]
  produces := [.version]
  parse := Version.parse
  write := Version.write
  onHead := some Version.onHead
  onTemplate := none
  fromHead := some Version.fromHead
  fromTemplate := none

end PromptPipeline.Directive
