/-
# Validation.Dependency -- which template waits for which

Template `i` waits for the first template that produces one of its dependents.
Templates that wait for none are sorted first, then those whose last open
dependency was sorted; what is left lies on a cycle or behind one
(`Graph.sorted`).  From a template that is left, going back through templates
that are left comes to a cycle (`Graph.cycleFrom?`).

Templates are named by their index.
-/
import PromptPipeline.Pipeline.Basic

namespace PromptPipeline.Validation

set_option autoImplicit false

/-- For each template the ones it waits for, in the order of its dependents and one
for each dependent that is produced. -/
structure Graph where
  predecessors : List (List Nat)
deriving Repr, DecidableEq

namespace Graph

/-- The graph of the templates of a pipeline. -/
def ofTemplates (templates : List Template) : Graph where
  predecessors :=
    templates.map fun t =>
      t.dependents.toList.filterMap fun name => templates.findIdx? (·.result == name)

/-- The number of templates. -/
def size (g : Graph) : Nat := g.predecessors.length

/-- What a template waits for. -/
def waitsFor (g : Graph) (i : Nat) : List Nat := g.predecessors.getD i []

/-- The templates that wait for one, as often as they do. -/
def successors (g : Graph) (j : Nat) : List Nat :=
  (List.range g.size).flatMap fun i => ((g.waitsFor i).filter (· == j)).map fun _ => i

/-! ## Sorting -/

/-- How far the sorting has come: the number of open dependencies of each template,
the templates that may be sorted next, and those that have been. -/
structure Progress where
  degrees : List Nat
  queue : List Nat
  done : List Nat
deriving Repr, DecidableEq

/-- Close one dependency of a template, which may be sorted after its last one. -/
def Progress.close (p : Progress) (i : Nat) : Progress :=
  let left := p.degrees.getD i 0 - 1
  { p with
    degrees := p.degrees.set i left
    queue := if left = 0 then p.queue ++ [i] else p.queue }

/-- Sort the next template. -/
def Progress.step (g : Graph) (p : Progress) : Progress :=
  match p.queue with
  | [] => p
  | i :: rest =>
      (g.successors i).foldl Progress.close { p with queue := rest, done := p.done ++ [i] }

/-- The start: the templates that wait for nothing may be sorted. -/
def start (g : Graph) : Progress where
  degrees := g.predecessors.map List.length
  queue := (List.range g.size).filter fun i => (g.waitsFor i).isEmpty
  done := []

/-- A number of steps. -/
def Progress.run (g : Graph) : Nat → Progress → Progress
  | 0, p => p
  | n + 1, p => Progress.run g n (p.step g)

/-- The templates that can be sorted; each step sorts one, so as many steps as there
are templates are enough. -/
def sorted (g : Graph) : List Nat := (g.start.run g g.size).done

/-! ## Cycles -/

/-- The first template that one waits for and that is not sorted. -/
def openPredecessor? (g : Graph) (sorted : List Nat) (i : Nat) : Option Nat :=
  (g.waitsFor i).find? fun j => !sorted.contains j

/-- Go back from the last template of a path, which is given in reverse, until a
template comes again.  The result runs from that template on in the order of the
walk. -/
def walk (g : Graph) (sorted : List Nat) : Nat → List Nat → Option (List Nat)
  | 0, _ => none
  | _, [] => none
  | fuel + 1, current :: before =>
      match g.openPredecessor? sorted current with
      | none => none
      | some next =>
          if (current :: before).contains next then
            some ((current :: before).reverse.dropWhile (· != next))
          else walk g sorted fuel (next :: current :: before)

/-- The cycle that going back from a template comes to. -/
def cycleFrom? (g : Graph) (sorted : List Nat) (i : Nat) : Option (List Nat) :=
  walk g sorted (g.size + 1) [i]

/-- The cycles met from the templates in order, none of which shares a template with
an earlier one. -/
def cyclesFrom (g : Graph) (sorted : List Nat) (reported : List Nat) : List Nat → List (List Nat)
  | [] => []
  | i :: rest =>
      if sorted.contains i || reported.contains i then cyclesFrom g sorted reported rest
      else
        match g.cycleFrom? sorted i with
        | none => cyclesFrom g sorted reported rest
        | some cycle =>
            if cycle.any reported.contains then cyclesFrom g sorted reported rest
            else cycle :: cyclesFrom g sorted (reported ++ cycle) rest

/-- **The cycles of the graph**, each against the flow of the parameters. -/
def cycles (g : Graph) : List (List Nat) := cyclesFrom g g.sorted [] (List.range g.size)

end Graph

end PromptPipeline.Validation
