/-
# Proofs.Edit.Conflict -- what conflicts are about

A conflict comes from applying a command, never from reading it (`Grammar.parse_ne_conflict`),
and it names the command that is refused (`HeadRefusal.command`, `TemplateRefusal.command`).
So a conflict over a declaration says one thing: the command declares a parameter that the
pipeline has already (`HeadRefusal.declares`, `TemplateRefusal.declares`).
-/
import PromptPipeline.Proofs.Edit.Refusal

namespace PromptPipeline

set_option autoImplicit false

/-! ## Reading -/

namespace Directive

variable {clash : Conflict}

/-- A conflict behind the only argument is in what is made of the argument. -/
theorem conflict_of_single {a : Arguments} {command : String}
    {f : String → Except ParseError Command}
    (failed : a.single command >>= f = .error (.conflict clash)) :
    ∃ argument, f argument = .error (.conflict clash) := by
  rcases Except.bind_error_iff.1 failed with unread | ⟨argument, -, failed⟩
  · unfold Arguments.single at unread
    split at unread
    · cases unread
    · cases unread
  · exact ⟨argument, failed⟩

/-- **Reading a command is no conflict**: there is nothing yet that it could contradict. -/
theorem parse_ne_conflict {d : Directive} (member : d ∈ Grammar.catalog) (a : Arguments) :
    d.parse a ≠ .error (.conflict clash) := by
  intro failed
  simp only [Grammar.catalog_eq, List.mem_cons, List.not_mem_nil, or_false] at member
  rcases member with rfl | rfl | rfl | rfl | rfl | rfl | rfl | rfl | rfl | rfl | rfl
  · obtain ⟨url, failed⟩ := conflict_of_single failed
    repeat' split at failed
    all_goals cases failed
  · obtain ⟨version, failed⟩ := conflict_of_single failed
    repeat' split at failed
    all_goals cases failed
  · dsimp only [Directive.parameter, Parameter.parse] at failed
    repeat' split at failed
    all_goals cases failed
  · dsimp only [Directive.execute, Execute.parse] at failed
    repeat' split at failed
    all_goals cases failed
  · dsimp only [Directive.model, Model.parse] at failed
    repeat' split at failed
    all_goals cases failed
  · dsimp only [Directive.persona, Persona.parse] at failed
    repeat' split at failed
    all_goals cases failed
  · dsimp only [Directive.knowledge, Directive.knowledgeWith, Knowledge.parse] at failed
    simp only [pure_bind] at failed
    repeat' split at failed
    all_goals cases failed
  · dsimp only [Directive.expect, Expect.parse] at failed
    repeat' split at failed
    all_goals cases failed
  · obtain ⟨function, failed⟩ := conflict_of_single failed
    repeat' split at failed
    all_goals cases failed
  · obtain ⟨raw, failed⟩ := conflict_of_single failed
    repeat' split at failed
    all_goals cases failed
  · dsimp only [Directive.iterate, Iterate.parse] at failed
    repeat' split at failed
    all_goals cases failed

theorem Knowledge.command_of_register {source : String} {p : Pipeline}
    (failed : Knowledge.register source p = .error clash) : clash.command = Knowledge.name := by
  unfold Knowledge.register at failed
  repeat' split at failed
  all_goals cases failed
  rfl

theorem Expect.command_of_setBound {isUpper : Bool} {unit : AmountUnit} {amount : UInt32}
    {bound : Option UInt32} (failed : Expect.setBound isUpper unit amount bound = .error clash) :
    clash.command = Expect.name := by
  unfold Expect.setBound at failed
  repeat' split at failed
  all_goals cases failed
  rfl

/-- A side fails where it is set, or what comes behind it fails. -/
theorem Expect.command_of_side {sets isUpper : Bool} {unit : AmountUnit} {amount : UInt32}
    {old : Option UInt32} {f : Option UInt32 → Except Conflict Bounds}
    (failed : (if sets = true then some <$> Expect.setBound isUpper unit amount old >>= f
      else pure old >>= f) = .error clash) :
    clash.command = Expect.name ∨ ∃ bound, f bound = .error clash := by
  cases sets with
  | false => exact .inr ⟨old, failed⟩
  | true =>
      rw [if_pos rfl] at failed
      cases set : Expect.setBound isUpper unit amount old with
      | error e =>
          rw [set] at failed
          cases failed
          exact .inl (Expect.command_of_setBound set)
      | ok bound =>
          rw [set] at failed
          exact .inr ⟨some bound, failed⟩

theorem Expect.command_of_restrict {bounds : Bounds} {sign : BoundSign} {unit : AmountUnit}
    {amount : UInt32} (failed : Expect.restrict bounds sign unit amount = .error clash) :
    clash.command = Expect.name := by
  rcases Expect.command_of_side failed with below | ⟨min, failed⟩
  · exact below
  · rcases Expect.command_of_side failed with above | ⟨max, failed⟩
    · exact above
    · dsimp only at failed
      repeat' split at failed
      all_goals cases failed
      rfl

theorem Expect.command_of_setFormat {format : ResultFormat} {old : Option ResultFormat}
    (failed : Expect.setFormat format old = .error clash) : clash.command = Expect.name := by
  unfold Expect.setFormat at failed
  repeat' split at failed
  all_goals cases failed
  rfl

end Directive

/-- Reading a line is no conflict either. -/
theorem Grammar.parse_ne_conflict {line : String} {place : Place} {clash : Conflict} :
    Grammar.standard.parse line place ≠ .error (.conflict clash) := by
  unfold Grammar.parse
  dsimp only
  split
  · nofun
  · split
    · nofun
    · split
      · nofun
      · rename_i found matched
        split
        · have owned := Grammar.matchUpTo_directive matched
          exact Directive.parse_ne_conflict (Grammar.mem_of_lookup Grammar.build_catalog owned) _
        · nofun

open Directive

/-- A conflict in a head names the command. -/
theorem HeadRefusal.command {c : Command} {p : Pipeline} {r : Refused Pipeline} {clash : Conflict}
    (refusal : HeadRefusal c p r) (conflict : r.error = .conflict clash) :
    clash.command = (Grammar.owner c.kind).name := by
  cases refusal with
  | parameter =>
      cases conflict
      rfl
  | knowledge clashes =>
      cases conflict
      exact Knowledge.command_of_register clashes
  | variant | misplaced => cases conflict

theorem TemplateRefusal.command {c : Command} {d : Draft} {r : Refused Draft} {clash : Conflict}
    (refusal : TemplateRefusal c d r) (conflict : r.error = .conflict clash) :
    clash.command = (Grammar.owner c.kind).name := by
  cases refusal with
  | parameter | execute | requirement | persona =>
      cases conflict
      rfl
  | knowledge clashes =>
      cases conflict
      exact Knowledge.command_of_register clashes
  | expectAmount clashes =>
      cases conflict
      exact Expect.command_of_restrict clashes
  | expectFormat clashes =>
      cases conflict
      exact Expect.command_of_setFormat clashes
  | variant | iterate | misplaced => cases conflict

/-- The command that declares a parameter. -/
def Parameter.command (q : Parameter) : Command :=
  .parameter q.name q.description q.isInput q.isOutput

/-- Only declarations are named like this. -/
theorem Grammar.exists_command {c : Command}
    (named : (Grammar.owner c.kind).name = Directive.Parameter.name) :
    ∃ q : Parameter, c = q.command := by
  have table : ∀ kind,
      (Grammar.owner kind).name = Directive.Parameter.name → kind = .parameter := by
    intro kind
    cases kind <;> decide
  have kind := table c.kind named
  cases c with
  | parameter name description isInput isOutput =>
      exact ⟨⟨name, description, isInput, isOutput⟩, rfl⟩
  | _ => cases kind

/-- A conflict over a declaration: the command declares a parameter that is there. -/
theorem HeadRefusal.declares {c : Command} {p : Pipeline} {r : Refused Pipeline} {clash : Conflict}
    (refusal : HeadRefusal c p r) (conflict : r.error = .conflict clash)
    (about : clash.command = Directive.Parameter.name) :
    ∃ q : Parameter, c = q.command ∧ clash = .parameterTwice q.name
      ∧ ∃ q' ∈ p.parameters, q'.name = q.name := by
  obtain ⟨q, rfl⟩ := Grammar.exists_command ((refusal.command conflict).symm.trans about)
  cases refusal with
  | parameter _ _ _ taken =>
      cases conflict
      exact ⟨q, rfl, rfl, taken⟩
  | misplaced _ noEdit => cases noEdit

theorem TemplateRefusal.declares {c : Command} {d : Draft} {r : Refused Draft} {clash : Conflict}
    (refusal : TemplateRefusal c d r) (conflict : r.error = .conflict clash)
    (about : clash.command = Directive.Parameter.name) :
    ∃ q : Parameter, c = q.command ∧ clash = .parameterTwice q.name
      ∧ ∃ q' ∈ d.pipeline.parameters, q'.name = q.name := by
  obtain ⟨q, rfl⟩ := Grammar.exists_command ((refusal.command conflict).symm.trans about)
  cases refusal with
  | parameter _ _ _ taken =>
      cases conflict
      exact ⟨q, rfl, rfl, taken⟩
  | misplaced _ noEdit => cases noEdit

end PromptPipeline
