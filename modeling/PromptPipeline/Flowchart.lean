/-
# Flowchart -- the diagram of a pipeline

A Mermaid flowchart with a node for each template between an input and an output
node.  Every edge carries the parameter that flows along it.
-/
import PromptPipeline.Validation.Violation
import PromptPipeline.Pipeline.Basic

namespace PromptPipeline.Flowchart

set_option autoImplicit false

open Violation (placeholder)

/-- Where a click on a node leads. -/
structure Link where
  href : String
  title : String
deriving Repr, DecidableEq

/-- The node of a template. -/
def node (t : Template) : String := Name.camelCase ("template-" ++ Name.kebab t.title)

/-- The node that a parameter flows out of: the input, or its producer. -/
def origin? (p : Pipeline) (parameter : String) : Option String :=
  if (p.parameter? parameter).any (·.isInput) then some "input"
  else (p.producer? parameter).map node

/-- A text inside a label. -/
def label (text : String) : String :=
  String.ofList (text.toList.flatMap fun c => if c = '"' then "#quot;".toList else [c])

/-- An edge that carries a parameter. -/
def edge (source parameter target : String) : String :=
  source ++ "--\"" ++ placeholder parameter ++ "\"-->" ++ target

/-- The lines of a template: its node and the edges into it. -/
def templateLines (p : Pipeline) (t : Template) : Except Violation (List String) := do
  let edges ← t.dependents.toList.mapM fun parameter =>
    match origin? p parameter with
    | some source => .ok (edge source parameter (node t))
    | none => .error (.undefinedParameter t.title parameter)
  return (node t ++ "(\"" ++ label t.title ++ "\")") :: edges

/-- The edge of an output parameter. -/
def outputLine (p : Pipeline) (q : Parameter) : Except Violation String :=
  match p.producer? q.name with
  | some t => .ok (edge (node t) q.name "output")
  | none => .error (.outputNotProduced q.name)

/-- The line that makes a node clickable. -/
def clickLine (t : Template) (link : Link) : String :=
  "click " ++ node t ++ " href \"" ++ label link.href ++ "\" \"" ++ label link.title ++ "\";"

/-- A line of the subgraph, indented unless it is empty. -/
def indented (line : String) : String := if line.isEmpty then line else "      " ++ line

/-- The first line of every diagram. -/
def tip : String :=
  "%% 🔮 Tip: Open this on GitHub or in the VSCode website to see the Mermaid graph visually"

/-- **The flowchart of a pipeline**, or the violation that leaves an edge without an
origin.  `link` tells the targets of the nodes. -/
def render (p : Pipeline) (link : Template → Option Link) : Except Violation String := do
  let steps ← p.templates.mapM (templateLines p)
  let outputs ← (p.parameters.filter (·.isOutput)).mapM (outputLine p)
  let clicks := p.templates.filterMap fun t => (link t).map (clickLine t)
  let body :=
    ["input((Input)):::input"] ++ steps.flatten ++ [""] ++ outputs
      ++ ["output((Output)):::output"] ++ (if clicks.isEmpty then [] else "" :: clicks)
      ++ ["", "classDef input color: grey;", "classDef output color: grey;"]
  let lines :=
    [tip, "", "flowchart LR",
        "  subgraph \"" ++ label p.title ++ "\"", "", "      direction TB", ""]
      ++ body.map indented ++ ["", "  end;"]
  return Text.join "\n" lines ++ "\n"

end PromptPipeline.Flowchart
