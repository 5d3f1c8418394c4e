/-
# Compile.Basic -- pipelines from documents

The head's commands are applied to an empty pipeline, then each template's to a fresh
template.  A result that nobody has declared becomes a parameter; whether it is an
output is known only at the end, from who depends on it.
-/
import PromptPipeline.Compile.Error
import PromptPipeline.Document.Extract
import PromptPipeline.Grammar.Basic
import PromptPipeline.Validation.Basic

namespace PromptPipeline

set_option autoImplicit false

/-- How to compile: whether the pipeline has to be valid, and whether a code block in
the head is ignored and not refused. -/
structure CompileOptions where
  validate : Bool := true
  allowHeadCode : Bool := true
deriving Repr, DecidableEq

namespace Compile

/-! ## Commands -/

/-- What compiling a part tells, and its result or error. -/
abbrev Compiled (α : Type) := Logged CompileError α

/-- A state after the command on a line has been applied to it. -/
def applyLine {σ : Type} (place : Place) (part : Part) (apply : Command → Edit σ) (s : σ)
    (line : CommandLine) : Compiled σ :=
  match Grammar.standard.parse line.text place with
  | .error e => .error (.command part line.line e)
  | .ok command => (apply command s).mapError fun refused => .command part line.line refused.error

/-- A pipeline after the head's commands. -/
def compileHead (options : CompileOptions) (head : Section) (p : Pipeline) : Compiled Pipeline := do
  match head.code with
  | [] => pure ()
  | block :: _ =>
      if options.allowHeadCode then Logged.note (.headCodeBlock block.line)
      else Logged.error (.headCodeBlock block.line)
  head.commands.foldlM (applyLine .head .head Grammar.standard.applyToHead) p

/-! ## Templates -/

/-- The parameters that a template depends on: those that its body refers to and its
jokers, without the reserved ones. -/
def dependents (t : Template) : NameSet :=
  NameSet.ofList
    (((Name.references t.content).map Name.camelCase ++ t.jokers).filter (!Name.isReserved ·))

/-- A template without its commands. -/
def startTemplate (s : Section) : Except TemplateFault Template :=
  match s.code with
  | [block] =>
      match s.result with
      | none => .error .noResult
      | some raw =>
          match Name.validate raw with
          | .error refusal => .error (.invalidResult refusal)
          | .ok result =>
              .ok { Template.new s.title block.content result with
                description := s.description
                language := block.language }
  | _ => .error .notOneCodeBlock

/-- A template and the pipeline that it will join, after the template's commands. -/
def compileTemplate (p : Pipeline) (s : Section) : Compiled Draft := do
  let t ← Logged.lift ((startTemplate s).mapError (.template s.title s.line))
  let draft ← s.commands.foldlM
    (applyLine .template (.template s.title) Grammar.standard.applyToTemplate) ⟨t, p⟩
  return { draft with template.dependents := dependents draft.template }

/-- A pipeline to which templates are added, and the results that nobody had
declared. -/
structure Progress where
  pipeline : Pipeline
  implicit : List String := []
deriving DecidableEq

/-- With a finished template and its result. -/
def Progress.add (x : Progress) (t : Template) : Progress :=
  let p := x.pipeline
  let x : Progress :=
    if (p.parameter? t.result).isSome then x
    else
      ⟨{ p with parameters := p.parameters ++ [{ name := t.result }] }, x.implicit ++ [t.result]⟩
  { x with pipeline.templates := x.pipeline.templates ++ [t] }

/-- With the template of one more section. -/
def addSection (x : Progress) (s : Section) : Compiled Progress := do
  Logged.note (.compilingTemplate s.title)
  let draft ← compileTemplate x.pipeline s
  return { x with pipeline := draft.pipeline }.add draft.template

/-! ## Linking -/

/-- Whether some template depends on a parameter. -/
def isConsumed (p : Pipeline) (name : String) : Bool :=
  p.templates.any fun t => t.dependents.contains name

/-- With the undeclared results that nobody depends on as outputs. -/
def Progress.link (x : Progress) : Pipeline :=
  { x.pipeline with
    parameters := x.pipeline.parameters.map fun q =>
      if x.implicit.contains q.name && !isConsumed x.pipeline q.name then
        { q with isOutput := true }
      else q }

/-- The pipeline of a document. -/
def ofDocument (options : CompileOptions) (d : Document) : Compiled Pipeline := do
  let title := d.title.getD ""
  let empty := { Pipeline.new title with description := d.head.description }
  Logged.note (.compilingHead title)
  let p ← compileHead options d.head empty
  let x ← d.templates.foldlM addSection ⟨p, []⟩
  Logged.note (.linking x.pipeline.templates.length)
  let p := x.link
  if options.validate then Logged.lift ((Validation.validate p).mapError .invalid) else pure ()
  return p

end Compile

/-- **The pipeline of a source.** -/
def compile (options : CompileOptions) (source : String) : Logged CompileError Pipeline := do
  let d ← Logged.lift ((Document.ofSource source).mapError .document)
  Compile.ofDocument options d

end PromptPipeline
