/-
# Compile.Options -- options from YAML
-/
import PromptPipeline.Compile.Basic
import PromptPipeline.Yaml.Reader

namespace PromptPipeline.CompileOptions

set_option autoImplicit false

/-- The tag of truth values. -/
def flagTag : List Char := "tag:yaml.org,2002:bool".toList

/-- The truth value that a scalar spells, which is plain or is a literal block with the
tag of truth values. -/
def flag? : Yaml → Option Bool
  | .scalar style tag text =>
      if style = .plain ∨ (style = .literal ∧ tag = some flagTag) then
        match String.ofList text with
        | "true" | "True" | "TRUE" => some true
        | "false" | "False" | "FALSE" => some false
        | _ => none
      else none
  | _ => none

/-- The values of the members that are options; each is given at most once, and other
members do not count. -/
structure Given where
  validate : Option Bool := none
  allowHeadCode : Option Bool := none

/-- With one more member. -/
def Given.add (given : Given) (member : Yaml × Yaml) : Option Given :=
  match member.1 with
  | .scalar _ _ name =>
      match String.ofList name with
      | "validate" =>
          if given.validate.isSome then none
          else (flag? member.2).map fun value => { given with validate := some value }
      | "allow_head_code_blocks" =>
          if given.allowHeadCode.isSome then none
          else (flag? member.2).map fun value => { given with allowHeadCode := some value }
      | _ => some given
  | _ => none

/-- The options of a document.  Where nothing stands, all keep their defaults. -/
def ofYaml? : Yaml → Option CompileOptions
  | .mapping members => do
      let given ← members.foldlM Given.add {}
      let defaults : CompileOptions := {}
      return ⟨given.validate.getD defaults.validate,
        given.allowHeadCode.getD defaults.allowHeadCode⟩
  | .scalar .plain _ [] => some {}
  | _ => none

/-- **The options that a YAML text gives.** -/
def ofText (text : String) : Except CompileError CompileOptions :=
  if Text.blank text then .ok {}
  else
    match Yaml.ofText? text with
    | none => .error .options
    | some none => .ok {}
    | some (some node) =>
        match ofYaml? node with
        | some options => .ok options
        | none => .error .options

end PromptPipeline.CompileOptions
