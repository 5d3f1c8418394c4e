/-
# Proofs.Edit.Setting -- what a command says of each part

Every command says something of one part of a head or of a template, and nothing of the
others.  What a list of commands says of a part is read off the list, one command after the
other; requirements and bounds are put together from two such parts.
-/
import PromptPipeline.Proofs.Edit.Run
import PromptPipeline.Pipeline.Basic

namespace PromptPipeline

set_option autoImplicit false

/-! ## Parts of a head -/

namespace Command

/-- The URL that a command says. -/
def url? : Command → Option String
  | .url value => some value
  | _ => none

/-- The version that a command says. -/
def version? : Command → Option String
  | .version value => some value
  | _ => none

/-- The parameter that a command declares. -/
def declared? : Command → Option Parameter
  | .parameter name description isInput isOutput => some ⟨name, description, isInput, isOutput⟩
  | _ => none

/-- The persona that a command tells of, with what it tells. -/
def persona? : Command → Option (String × String)
  | .persona name description => some (name, description.getD "")
  | _ => none

/-- The source of knowledge that a command names. -/
def source? : Command → Option String
  | .knowledge source => some source
  | _ => none

/-! ## Parts of a template -/

/-- The variant that a command requires. -/
def variant? : Command → Option ModelVariant
  | .model .variant value => ModelVariant.ofKeyword? value
  | _ => none

/-- The model name that a command requires. -/
def modelName? : Command → Option String
  | .model .name value => some value
  | _ => none

/-- The execution that a command demands. -/
def execution? : Command → Option Execution
  | .execute execution => some execution
  | _ => none

/-- The persona that a command makes a template speak as. -/
def speaker? : Command → Option String
  | .persona name _ => some name
  | _ => none

/-- The amount that a command sets on one side of the bounds of a unit. -/
def bound? (isUpper : Bool) (unit : AmountUnit) : Command → Option UInt32
  | .expectAmount sign unit' amount =>
      if unit' = unit ∧ (if isUpper then sign.boundsAbove else sign.boundsBelow) = true then
        some amount
      else none
  | _ => none

end Command

/-! ## Parts of a list -/

/-- A record, unless all of it is blank. -/
def unlessBlank {α : Type} [DecidableEq α] (blank record : α) : Option α :=
  if record = blank then none else some record

section

variable {α : Type} [DecidableEq α] {blank record : α}

theorem unlessBlank_getD : (unlessBlank blank record).getD blank = record := by
  unfold unlessBlank
  split
  · rename_i same
    exact same.symm
  · rfl

theorem eq_unlessBlank {option : Option α} (is : option.getD blank = record)
    (proper : option ≠ some blank) : option = unlessBlank blank record := by
  cases option with
  | none => exact (if_pos is.symm).symm
  | some held =>
      subst is
      exact (if_neg fun same => proper (congrArg some same)).symm

end

/-- The requirements that commands make, the first of each key. -/
def requirementsOf (cs : List Command) : Option ModelRequirements :=
  unlessBlank {}
    { variant := cs.findSome? Command.variant?
      name := cs.findSome? Command.modelName? }

/-- The bounds that commands set for a unit, the first of each side. -/
def boundsOf (unit : AmountUnit) (cs : List Command) : Option Bounds :=
  unlessBlank {}
    { min := cs.findSome? (Command.bound? false unit)
      max := cs.findSome? (Command.bound? true unit) }

end PromptPipeline
