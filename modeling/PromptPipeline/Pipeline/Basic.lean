/-
# Pipeline.Basic -- compiled pipelines

A pipeline is what a document compiles to: parameters that flow between prompt
templates, the personas the templates speak as and the knowledge they draw from.
It is a plain value with structural equality.

`Expectations` gives each unit at most one pair of bounds; `Expectations.get_set`
is its only law.
-/
import PromptPipeline.Command.Vocabulary
import PromptPipeline.Name.Basic
import PromptPipeline.Name.Set

namespace PromptPipeline

set_option autoImplicit false

/-! ## Parts -/

/-- What a template or a persona asks of the model. -/
structure ModelRequirements where
  variant : Option ModelVariant := none
  name : Option String := none
deriving Repr, DecidableEq, Inhabited

/-- Whether nothing is asked. -/
def ModelRequirements.isEmpty (r : ModelRequirements) : Bool := r.variant.isNone && r.name.isNone

/-- A named slot between templates, filled by the caller if it is an input and
returned to the caller if it is an output. -/
structure Parameter where
  name : String
  description : Option String := none
  isInput : Bool := false
  isOutput : Bool := false
deriving Repr, DecidableEq, Inhabited

/-- A persona that templates speak as.  The model requirements and the
preparation ids are filled in when it is prepared. -/
structure Persona where
  name : String
  description : String := ""
  requirements : Option ModelRequirements := none
  preparationIds : Option (List UInt32) := none
deriving Repr, DecidableEq, Inhabited

/-- A source of knowledge under a name derived from its content: a URL, a path or
inline text. -/
structure KnowledgeSource where
  name : String
  content : String
  preparationIds : Option (List UInt32) := none
deriving Repr, DecidableEq, Inhabited

/-- The bounds on one amount. -/
structure Bounds where
  min : Option UInt32 := none
  max : Option UInt32 := none
deriving Repr, DecidableEq, Inhabited

/-! ## Expectations -/

/-- At most one pair of bounds for each unit. -/
structure Expectations where
  characters : Option Bounds := none
  words : Option Bounds := none
  sentences : Option Bounds := none
  lines : Option Bounds := none
  paragraphs : Option Bounds := none
  pages : Option Bounds := none
deriving Repr, DecidableEq, Inhabited

namespace Expectations

/-- The bounds of a unit. -/
def get (e : Expectations) : AmountUnit → Option Bounds
  | .characters => e.characters
  | .words => e.words
  | .sentences => e.sentences
  | .lines => e.lines
  | .paragraphs => e.paragraphs
  | .pages => e.pages

/-- With other bounds for one unit. -/
def set (e : Expectations) (unit : AmountUnit) (bounds : Bounds) : Expectations :=
  match unit with
  | .characters => { e with characters := some bounds }
  | .words => { e with words := some bounds }
  | .sentences => { e with sentences := some bounds }
  | .lines => { e with lines := some bounds }
  | .paragraphs => { e with paragraphs := some bounds }
  | .pages => { e with pages := some bounds }

theorem get_set (e : Expectations) (unit other : AmountUnit) (bounds : Bounds) :
    (e.set unit bounds).get other = if other = unit then some bounds else e.get other := by
  cases unit <;> cases other <;> rfl

/-- The bounded units with their bounds, in the order of the units. -/
def toList (e : Expectations) : List (AmountUnit × Bounds) :=
  AmountUnit.all.filterMap fun unit => (e.get unit).map (unit, ·)

/-- Whether no unit is bounded. -/
def isEmpty (e : Expectations) : Bool := e.toList.isEmpty

end Expectations

/-! ## Templates and pipelines -/

/-- One step of a pipeline; it produces exactly one parameter. -/
structure Template where
  name : String
  title : String
  description : Option String := none
  execution : Execution := .promptTemplate
  requirements : Option ModelRequirements := none
  persona : Option String := none
  knowledge : List String := []
  jokers : List String := []
  postprocessing : List String := []
  expectations : Expectations := {}
  format : Option ResultFormat := none
  language : Option String := none
  content : String
  prepared : Option String := none
  dependents : NameSet := ∅
  result : String
deriving DecidableEq, Inhabited

/-- A template with its name derived from the title and default settings. -/
def Template.new (title content result : String) : Template where
  name := Name.kebab title
  title := title
  content := content
  result := result

/-- A compiled pipeline. -/
structure Pipeline where
  url : Option String := none
  title : String
  version : Option String := none
  description : Option String := none
  parameters : List Parameter := []
  templates : List Template := []
  knowledge : List KnowledgeSource := []
  personas : List Persona := []
  defaults : Option ModelRequirements := none
deriving DecidableEq, Inhabited

namespace Pipeline

/-- A pipeline with nothing but a title. -/
def new (title : String) : Pipeline where
  title := title

/-- The first parameter of a name. -/
def parameter? (p : Pipeline) (name : String) : Option Parameter :=
  p.parameters.find? (·.name == name)

/-- The first template that produces a parameter. -/
def producer? (p : Pipeline) (parameter : String) : Option Template :=
  p.templates.find? (·.result == parameter)

/-- The first persona of a name. -/
def persona? (p : Pipeline) (name : String) : Option Persona :=
  p.personas.find? (·.name == name)

/-- The first knowledge source of a name. -/
def source? (p : Pipeline) (name : String) : Option KnowledgeSource :=
  p.knowledge.find? (·.name == name)

end Pipeline

end PromptPipeline
