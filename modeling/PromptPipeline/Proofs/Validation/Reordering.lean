/-
# Proofs.Validation.Reordering -- the check of a pipeline in another order

Whether a pipeline is executable does not depend on the order of its parameters and of
its templates: all that it takes is said of their members, and an order of execution of
some templates is one of the same templates in another order (`Executable.reorder`).
-/
import PromptPipeline.Proofs.Validation.Grounded

namespace PromptPipeline.Validation

set_option autoImplicit false

/-- An order of execution stays one next to the same inputs. -/
theorem IsExecutionOrder.reorder {p p' : Pipeline} {order : List Template}
    (ordered : IsExecutionOrder p order) (parameters : p.parameters.Perm p'.parameters) :
    IsExecutionOrder p' order := by
  intro before t after split name depends
  rcases ordered before t after split name depends with ⟨q, member, given⟩ | produced
  · exact .inl ⟨q, parameters.mem_iff.1 member, given⟩
  · exact .inr produced

/-- **A pipeline with the parameters and templates of an executable one is executable**, if
what its templates name is there. -/
theorem Executable.reorder {p p' : Pipeline} (executable : Executable p) (grounded : Grounded p')
    (url : p'.url = p.url) (version : p'.version = p.version)
    (parameters : p.parameters.Perm p'.parameters) (templates : p.templates.Perm p'.templates) :
    Executable p' where
  url := url ▸ executable.url
  version := version ▸ executable.version
  parametersDistinct := grounded.parametersDistinct
  notReserved := grounded.notReserved
  templatesDistinct := (templates.map _).nodup_iff.1 executable.templatesDistinct
  notBlank := fun t member => executable.notBlank t (templates.mem_iff.2 member)
  dependentsDeclared := by
    intro t member name depends
    obtain ⟨q, declared, named⟩ :=
      executable.dependentsDeclared t (templates.mem_iff.2 member) name depends
    exact ⟨q, parameters.mem_iff.1 declared, named⟩
  resultsDeclared := grounded.resultsDeclared
  personasKnown := grounded.personasKnown
  sourcesKnown := grounded.sourcesKnown
  resultsDistinct := (templates.map _).nodup_iff.1 executable.resultsDistinct
  inputsGiven := by
    intro q declared input t member
    exact executable.inputsGiven q (parameters.mem_iff.2 declared) input t
      (templates.mem_iff.2 member)
  othersProduced := by
    intro q declared noInput
    obtain ⟨t, member, result⟩ :=
      executable.othersProduced q (parameters.mem_iff.2 declared) noInput
    exact ⟨t, templates.mem_iff.1 member, result⟩
  ordered := by
    obtain ⟨order, perm, ordered⟩ := executable.ordered
    exact ⟨order, perm.trans templates, ordered.reorder parameters⟩

end PromptPipeline.Validation
