/-
# Yaml.Basic -- nodes of YAML documents

A node can be named and repeated under its name further on, also inside of itself.
`Yaml.resolve` puts the node in the place of its repetitions; one inside of the node
itself stays, since nothing finite could stand there.
-/

namespace PromptPipeline

set_option autoImplicit false

namespace Yaml

/-- How a scalar is written. -/
inductive Style
  | plain
  | quoted
  | literal
  | folded
deriving Repr, DecidableEq, Inhabited

end Yaml

/-- A node of a YAML document, where a scalar can have a tag. -/
inductive Yaml
  | scalar (style : Yaml.Style) (tag : Option (List Char)) (text : List Char)
  | sequence (items : List Yaml)
  | mapping (members : List (Yaml × Yaml))
  | named (name : List Char) (node : Yaml)
  | repeated (name : List Char)
deriving Inhabited

namespace Yaml

/-- What stands where a value is left out. -/
def absent : Yaml := .scalar .plain none []

/-- Nodes by the names that they have been given, last first. -/
abbrev Names := List (List Char × Yaml)

mutual

/-- A node with every repetition replaced by the node of that name before it, and the
names known after it. -/
def resolve (names : Names) : Yaml → Option (Yaml × Names)
  | .scalar style tag text => some (.scalar style tag text, names)
  | .sequence items => do
      let (items, names) ← resolveItems names items
      return (.sequence items, names)
  | .mapping members => do
      let (members, names) ← resolveMembers names members
      return (.mapping members, names)
  | .named name node => do
      let (node, names) ← resolve ((name, .repeated name) :: names) node
      return (node, (name, node) :: names)
  | .repeated name => do
      let node ← names.lookup name
      return (node, names)

/-- Resolved items. -/
def resolveItems (names : Names) : List Yaml → Option (List Yaml × Names)
  | [] => some ([], names)
  | item :: rest => do
      let (item, names) ← resolve names item
      let (rest, names) ← resolveItems names rest
      return (item :: rest, names)

/-- Resolved members. -/
def resolveMembers (names : Names) : List (Yaml × Yaml) → Option (List (Yaml × Yaml) × Names)
  | [] => some ([], names)
  | (key, value) :: rest => do
      let (key, names) ← resolve names key
      let (value, names) ← resolve names value
      let (rest, names) ← resolveMembers names rest
      return ((key, value) :: rest, names)

end

end Yaml

end PromptPipeline
