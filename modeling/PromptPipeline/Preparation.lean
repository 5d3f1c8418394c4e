/-
# Preparation -- what the execution layer adds to a pipeline

Preparing a pipeline finds models for the personas, indexes the knowledge and puts
both into the bodies.  `strip` takes all that away again.
-/
import PromptPipeline.Pipeline.Basic
import PromptPipeline.Notice

namespace PromptPipeline.Preparation

set_option autoImplicit false

/-- Whether every persona has a model and every source has been indexed. -/
def isPrepared (p : Pipeline) : Bool :=
  (p.personas.all fun q => q.requirements.isSome)
    && p.knowledge.all fun s => s.preparationIds.isSome

/-- The canonical names that a body refers to. -/
def referenced (body : String) : List String := (Name.references body).map Name.camelCase

/-- A template without its prepared body.  A dependent goes with it if only that body
refers to it and it is no joker. -/
def stripTemplate (t : Template) : Template :=
  match t.prepared with
  | none => t
  | some body =>
      let onlyPrepared (name : String) : Bool :=
        (referenced body).contains name && !(referenced t.content).contains name
      { t with
        prepared := none
        dependents := t.dependents.filter fun name => !onlyPrepared name || t.jokers.contains name }

/-- **A pipeline without what preparing added.** -/
def strip (p : Pipeline) : Pipeline :=
  { p with
    personas := p.personas.map fun q => { q with requirements := none, preparationIds := none }
    knowledge := p.knowledge.map fun s => { s with preparationIds := none }
    templates := p.templates.map stripTemplate }

/-- What is told when a pipeline is stripped. -/
def stripNotices (p : Pipeline) : List Notice := [.unprepared p.title]

end PromptPipeline.Preparation
