/-
# Validation.Basic -- the check of a pipeline

`violations` lists every broken invariant: first those of the head, then those of
the parameters and of the templates in their order, then what is produced too
often or not at all, then the cycles.  A pipeline is valid when there is none.
-/
import PromptPipeline.Validation.Violation
import PromptPipeline.Validation.Dependency
import PromptPipeline.SemanticVersion

namespace PromptPipeline.Validation

set_option autoImplicit false

/-! ## The head -/

/-- Whether a text looks like an absolute https URL: the scheme in lower case, a host
that does not start with a slash, and no white space. -/
def isHttpsUrl (url : String) : Bool :=
  match Text.afterLead? "https://".toList url.toList with
  | none => false
  | some host => !host.isEmpty && host.head? != some '/' && !url.toList.any Unicode.isBlank

/-- The violations of the URL and the version. -/
def head (p : Pipeline) : List Violation :=
  (p.url.toList.filter (!isHttpsUrl ·)).map .invalidUrl
    ++ (p.version.toList.filter (!SemanticVersion.isValid ·)).map .invalidVersion

/-! ## Parameters and templates -/

/-- The violations of the parameters after those whose names have been seen. -/
def parametersAfter (seen : List String) : List Parameter → List Violation
  | [] => []
  | q :: rest =>
      (if seen.contains q.name then [.parameterTwice q.name] else [])
        ++ (if Name.isReserved q.name then [.reservedParameter q.name] else [])
        ++ parametersAfter (q.name :: seen) rest

/-- The violations of the parameters. -/
def parameters (p : Pipeline) : List Violation := parametersAfter [] p.parameters

/-- The violations of one template, apart from its name. -/
def template (p : Pipeline) (t : Template) : List Violation :=
  (if Text.blank t.content then [.emptyContent t.title] else [])
    ++ (t.dependents.toList.filter fun name => (p.parameter? name).isNone).map
      (.undefinedParameter t.title)
    ++ (if (p.parameter? t.result).isNone then [.resultNotDeclared t.title t.result] else [])
    ++ (t.persona.toList.filter fun name => (p.persona? name).isNone).map (.unknownPersona t.title)
    ++ (t.knowledge.filter fun name => (p.source? name).isNone).map (.unknownSource t.title)

/-- The violations of the templates after those whose names have been seen. -/
def templatesAfter (p : Pipeline) (seen : List String) : List Template → List Violation
  | [] => []
  | t :: rest =>
      (if seen.contains t.name then [.templateNameTwice t.name] else [])
        ++ template p t ++ templatesAfter p (t.name :: seen) rest

/-- The violations of the templates. -/
def templates (p : Pipeline) : List Violation := templatesAfter p [] p.templates

/-! ## Producers -/

/-- The titles of the templates that produce a parameter. -/
def producerTitles (p : Pipeline) (name : String) : List String :=
  (p.templates.filter (·.result == name)).map (·.title)

/-- The parameters that several templates produce, in the order of their names. -/
def severalProducers (p : Pipeline) : List Violation :=
  ((NameSet.ofList (p.templates.map (·.result))).toList.filter
    fun name => 1 < (producerTitles p name).length).map
      fun name => .severalProducers name (producerTitles p name)

/-- The violation of a declaration that does not fit the producers. -/
def declaration (p : Pipeline) (q : Parameter) : Option Violation :=
  match q.isInput, p.producer? q.name with
  | true, some t => some (.inputProduced q.name t.title)
  | true, none => none
  | false, some _ => none
  | false, none => some (if q.isOutput then .outputNotProduced q.name else .unresolved q.name)

/-- The violations of what produces the parameters. -/
def producers (p : Pipeline) : List Violation :=
  severalProducers p ++ p.parameters.filterMap (declaration p)

/-! ## Cycles -/

/-- A cycle along the flow of the parameters, with the first one again at the end. -/
def closed (results : List String) : List String :=
  results.reverse ++ results.reverse.head?.toList

/-- The cycles of the pipeline. -/
def cycles (p : Pipeline) : List Violation :=
  (Graph.ofTemplates p.templates).cycles.map fun cycle =>
    .cycle (closed (cycle.filterMap fun i => (p.templates[i]?).map (·.result)))

/-! ## The whole check -/

/-- **Every broken invariant of a pipeline.** -/
def violations (p : Pipeline) : List Violation :=
  head p ++ parameters p ++ templates p ++ producers p ++ cycles p

/-- The violations, if there are any. -/
def validate (p : Pipeline) : Except (List Violation) Unit :=
  match violations p with
  | [] => .ok ()
  | found => .error found

end PromptPipeline.Validation
