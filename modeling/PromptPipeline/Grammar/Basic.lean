/-
# Grammar.Basic -- directives with their keywords

A grammar is a list of directives no two of which share a keyword or produce the
same kind of command.  `Grammar.build` checks that; the grammar of the language is
`Grammar.standard`.

A line belongs to the directive whose keyword is spelled by the most of its first
tokens (`Grammar.matchKeyword`).
-/
import PromptPipeline.Directive.Url
import PromptPipeline.Directive.Version
import PromptPipeline.Directive.Parameter
import PromptPipeline.Directive.Execute
import PromptPipeline.Directive.Model
import PromptPipeline.Directive.Persona
import PromptPipeline.Directive.Knowledge
import PromptPipeline.Directive.Expect
import PromptPipeline.Directive.Postprocess
import PromptPipeline.Directive.Joker
import PromptPipeline.Directive.Iterate

namespace PromptPipeline

set_option autoImplicit false

/-- Directives with the owner of every keyword and the greatest number of words in
a keyword. -/
structure Grammar where
  directives : List Directive
  keywords : List (String × Directive)
  longest : Nat

namespace Grammar

/-! ## Building -/

/-- The keywords and the produced kinds of the directives met so far. -/
structure Claims where
  keywords : List (String × Directive) := []
  kinds : List (Command.Kind × Directive) := []
  longest : Nat := 0

/-- Claim the canonical spelling of a keyword for a directive. -/
def Claims.addKeyword (d : Directive) (claims : Claims) (keyword : String) :
    Except GrammarFault Claims :=
  let canonical := Keyword.canonical keyword
  if canonical.isEmpty then .error (.emptyKeyword d.name)
  else
    match claims.keywords.lookup canonical with
    | some owner => .error (.keywordTwice canonical owner.name d.name)
    | none =>
        .ok { claims with
          keywords := claims.keywords ++ [(canonical, d)]
          longest := max claims.longest (Keyword.wordCount canonical) }

/-- Claim a kind of command for a directive. -/
def Claims.addKind (d : Directive) (claims : Claims) (kind : Command.Kind) :
    Except GrammarFault Claims :=
  match claims.kinds.lookup kind with
  | some owner => .error (.producedTwice kind owner.name d.name)
  | none => .ok { claims with kinds := claims.kinds ++ [(kind, d)] }

/-- Claim all that a directive is known by. -/
def Claims.addDirective (claims : Claims) (d : Directive) : Except GrammarFault Claims :=
  if d.places.isEmpty then .error (.unusable d.name)
  else do
    let claims ← d.keywords.foldlM (Claims.addKeyword d) claims
    d.produces.foldlM (Claims.addKind d) claims

/-- **The grammar of a list of directives**, unless one can stand nowhere, a keyword
is empty, or two claim the same keyword or kind. -/
def build (directives : List Directive) : Except GrammarFault Grammar := do
  let claims ← directives.foldlM Claims.addDirective {}
  return ⟨directives, claims.keywords, claims.longest⟩

/-- Every directive of the language, in catalog order, with a check of URLs. -/
def catalogWith (check : String → Except Url.Fault String) : List Directive :=
  [.urlWith check, .version, .parameter, .execute, .model, .persona, .knowledgeWith check, .expect,
    .postprocess, .joker, .iterate]

/-- Every directive of the language, in catalog order. -/
def catalog : List Directive := catalogWith Url.check

theorem catalog_eq : catalog
    = [.url, .version, .parameter, .execute, .model, .persona, .knowledge, .expect, .postprocess,
      .joker, .iterate] := rfl

/-- The grammar of the language, with a check of URLs. -/
def standardWith (check : String → Except Url.Fault String) : Grammar :=
  match build (catalogWith check) with
  | .ok g => g
  | .error _ => ⟨[], [], 0⟩

/-- **The grammar of the language.** -/
def standard : Grammar := standardWith Url.check

/-- The grammar of the language, for a reading of domain names. -/
def ofReading (labels? : Url.Domain.Reading) : Grammar := standardWith (Url.checkWith labels?)

/-! ## Looking up -/

/-- The directive that owns a keyword, in any spelling. -/
def get? (g : Grammar) (keyword : String) : Option Directive :=
  g.keywords.lookup (Keyword.canonical keyword)

/-- The directive that produces a kind of command. -/
def directiveFor? (g : Grammar) (kind : Command.Kind) : Option Directive :=
  g.directives.find? (·.produces.contains kind)

/-- A keyword at the start of a list of tokens: its directive, how many tokens spell
it, and its canonical spelling. -/
structure Match where
  directive : Directive
  consumed : Nat
  keyword : String

/-- The keyword spelled by exactly the first `count` tokens. -/
def matchExactly (g : Grammar) (tokens : List String) (count : Nat) : Option Match :=
  let keyword := Keyword.canonical (Text.join " " (tokens.take count))
  (g.keywords.lookup keyword).map fun d => ⟨d, count, keyword⟩

/-- The longest keyword spelled by at most `count` of the first tokens and at least
one. -/
def matchUpTo (g : Grammar) (tokens : List String) : Nat → Option Match
  | 0 => none
  | count + 1 => (matchExactly g tokens (count + 1)).or (matchUpTo g tokens count)

/-- **The longest keyword at the start of a list of tokens.**  No more tokens are
tried than a keyword has words. -/
def matchKeyword (g : Grammar) (tokens : List String) : Option Match :=
  matchUpTo g tokens (min tokens.length (max g.longest 1))

/-! ## Commands -/

/-- **The command on a line**, which has to be legal in the place. -/
def parse (g : Grammar) (line : String) (place : Place) : Except ParseError Command :=
  if line.toList.any fun c => c == '\n' || c == '\r' then .error (.newLine line)
  else
    let raw := Text.trim line
    match Token.ofLine raw with
    | [] => .error (.malformed line)
    | tokens =>
        match g.matchKeyword (tokens.map (·.text)) with
        | none => .error (.unknownCommand raw)
        | some found =>
            if found.directive.isUsedIn place then
              found.directive.parse ⟨raw, found.keyword, tokens.drop found.consumed⟩
            else .error (.notAllowedHere found.directive.name place raw)

/-- The directive of a command. -/
def directiveOf (g : Grammar) (c : Command) : Except ParseError Directive :=
  match g.directiveFor? c.kind with
  | some d => .ok d
  | none => .error (.grammar (.noDirective c.kind))

/-- **The line of a command.** -/
def write (g : Grammar) (c : Command) : Except ParseError String := do
  let d ← g.directiveOf c
  d.write c

/-- The line of a command, or an empty one. -/
def lineOf (g : Grammar) (c : Command) : String :=
  match g.write c with
  | .ok line => line
  | .error _ => ""

/-- **Apply a command to the pipeline under construction.** -/
def applyToHead (g : Grammar) (c : Command) : Edit Pipeline := fun p =>
  match g.directiveOf c with
  | .error e => refuse e p
  | .ok d =>
      match d.onHead with
      | some edit => edit c p
      | none => refuse (.notAllowedHere d.name .head (g.lineOf c)) p

/-- **Apply a command to the template under construction.** -/
def applyToTemplate (g : Grammar) (c : Command) : Edit Draft := fun draft =>
  match g.directiveOf c with
  | .error e => refuse e draft
  | .ok d =>
      match d.onTemplate with
      | some edit => edit c draft
      | none => refuse (.notAllowedHere d.name .template (g.lineOf c)) draft

end Grammar

end PromptPipeline
