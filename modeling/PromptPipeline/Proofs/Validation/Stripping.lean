/-
# Proofs.Validation.Stripping -- a valid pipeline without what preparing added

Taking away what preparing added leaves each template its names, content and result, and may
leave it fewer dependents (`Template.Eases`).  A pipeline whose templates wait for less stays
executable, for an order in which they can be executed is one for less, too
(`Executable.of_eases`).  So no valid pipeline, prepared in whatever way, is refused when it is
stripped (`strip_valid`).
-/
import PromptPipeline.Preparation
import PromptPipeline.Proofs.Name.Set
import PromptPipeline.Proofs.Validation.Executable

namespace PromptPipeline

set_option autoImplicit false

/-! ## Templates that wait for less -/

/-- The second template waits for nothing that the first one does not wait for, and is the same
to the check in all else. -/
structure Template.Eases (t u : Template) : Prop where
  name : u.name = t.name
  content : u.content = t.content
  result : u.result = t.result
  persona : u.persona = t.persona
  knowledge : u.knowledge = t.knowledge
  dependents : ∀ name ∈ u.dependents, name ∈ t.dependents

/-- The second pipeline has the head of the first one, personas and sources of the same names, and
templates that wait for less. -/
structure Pipeline.Eases (change : Template → Template) (p q : Pipeline) : Prop where
  url : q.url = p.url
  version : q.version = p.version
  parameters : q.parameters = p.parameters
  personas : q.personas.map Persona.name = p.personas.map Persona.name
  knowledge : q.knowledge.map KnowledgeSource.name = p.knowledge.map KnowledgeSource.name
  templates : q.templates = p.templates.map change
  eases : ∀ t : Template, t.Eases (change t)

namespace Validation

variable {change : Template → Template} {p q : Pipeline}

/-- An order of execution is one for templates that wait for less. -/
theorem IsExecutionOrder.of_eases (eases : p.Eases change q) {order : List Template}
    (ordered : IsExecutionOrder p order) : IsExecutionOrder q (order.map change) := by
  intro before u after split name depends
  obtain ⟨front, back, rfl, rfl, rest⟩ := List.map_eq_append_iff.1 split
  obtain ⟨t, tail, rfl, rfl, rfl⟩ := List.map_eq_cons_iff.1 rest
  have waits := (eases.eases t).dependents name depends
  rcases ordered front t tail rfl name waits with ⟨given, declared, input⟩ | ⟨t', member, result⟩
  · exact .inl ⟨given, eases.parameters ▸ declared, input⟩
  · exact .inr ⟨change t', List.mem_map_of_mem member, (eases.eases t').result.trans result⟩

/-- A part that is the same of each template is the same of all. -/
theorem map_of_eases {α : Type} {part : Template → α} (eases : p.Eases change q)
    (same : ∀ t, part (change t) = part t) : q.templates.map part = p.templates.map part := by
  rw [eases.templates, List.map_map]
  exact List.map_congr_left fun t _ => same t

/-- **A pipeline whose templates wait for less stays executable.** -/
theorem Executable.of_eases (executable : Executable p) (eases : p.Eases change q) :
    Executable q := by
  have names := map_of_eases eases fun t => (eases.eases t).name
  have results := map_of_eases eases fun t => (eases.eases t).result
  have each {P : Template → Prop} (all : ∀ t ∈ p.templates, P (change t)) :
      ∀ u ∈ q.templates, P u := by
    intro u member
    rw [eases.templates] at member
    obtain ⟨t, inside, rfl⟩ := List.mem_map.1 member
    exact all t inside
  exact {
    url := eases.url ▸ executable.url
    version := eases.version ▸ executable.version
    parametersDistinct := eases.parameters ▸ executable.parametersDistinct
    notReserved := eases.parameters ▸ executable.notReserved
    templatesDistinct := names ▸ executable.templatesDistinct
    notBlank := each fun t member => (eases.eases t).content ▸ executable.notBlank t member
    dependentsDeclared := each fun t member name depends =>
      eases.parameters ▸ executable.dependentsDeclared t member name
        ((eases.eases t).dependents name depends)
    resultsDeclared := each fun t member =>
      eases.parameters ▸ (eases.eases t).result ▸ executable.resultsDeclared t member
    personasKnown := each fun t member name spoken =>
      (exists_name_iff eases.personas).2
        (executable.personasKnown t member name ((eases.eases t).persona ▸ spoken))
    sourcesKnown := each fun t member name linked =>
      (exists_name_iff eases.knowledge).2
        (executable.sourcesKnown t member name ((eases.eases t).knowledge ▸ linked))
    resultsDistinct := results ▸ executable.resultsDistinct
    inputsGiven := by
      rw [eases.parameters]
      exact fun x declared input => each fun t member =>
        (eases.eases t).result ▸ executable.inputsGiven x declared input t member
    othersProduced := by
      rw [eases.parameters]
      exact fun x declared noInput =>
        (exists_name_iff results).2 (executable.othersProduced x declared noInput)
    ordered := by
      obtain ⟨order, perm, ordered⟩ := executable.ordered
      exact ⟨order.map change, eases.templates ▸ perm.map change, ordered.of_eases eases⟩ }

end Validation

/-! ## Stripping -/

namespace Preparation

/-- A template is stripped of dependents at most. -/
theorem stripTemplate_eases (t : Template) : t.Eases (stripTemplate t) := by
  unfold stripTemplate
  split
  · exact ⟨rfl, rfl, rfl, rfl, rfl, fun _ depends => depends⟩
  · exact ⟨rfl, rfl, rfl, rfl, rfl, fun _ depends => (NameSet.mem_filter.1 depends).1⟩

theorem strip_eases (p : Pipeline) : p.Eases stripTemplate (strip p) where
  url := rfl
  version := rfl
  parameters := rfl
  personas := by
    unfold strip
    rw [List.map_map]
    rfl
  knowledge := by
    unfold strip
    rw [List.map_map]
    rfl
  templates := rfl
  eases := stripTemplate_eases

/-- A stripped template has no prepared body, so there is nothing more to take away. -/
theorem stripTemplate_stripTemplate (t : Template) :
    stripTemplate (stripTemplate t) = stripTemplate t := by
  have unprepared : (stripTemplate t).prepared = none := by
    unfold stripTemplate
    split
    · assumption
    · rfl
  rw [stripTemplate, unprepared]

theorem strip_strip (p : Pipeline) : strip (strip p) = strip p := by
  unfold strip
  dsimp only
  rw [List.map_map, List.map_map, List.map_map]
  congr 1
  exact List.map_congr_left fun t _ => stripTemplate_stripTemplate t

end Preparation

open Preparation Validation

/-- **A valid pipeline stays valid when what preparing added is taken away**, and taking it away
again changes nothing. -/
theorem strip_valid (p : Pipeline) :
    (validate p = .ok () → validate (strip p) = .ok ()) ∧ strip (strip p) = strip p := by
  refine ⟨fun valid => ?_, strip_strip p⟩
  have executable := violations_eq_nil_iff.1 (validate_eq_ok_iff_violations.1 valid)
  exact validate_eq_ok_iff_violations.2
    (violations_eq_nil_iff.2 (executable.of_eases (strip_eases p)))

/-- A template that waits for a parameter that only its prepared body refers to. -/
theorem strip_valid_letter :
    let draft : Template :=
      { Template.new "Draft" "{topic}" "draft" with dependents := .ofList ["topic"] }
    let letter : Template :=
      { Template.new "Letter" "{draft}" "letter" with
        prepared := some "{topic} {draft}"
        dependents := .ofList ["draft", "topic"] }
    let p : Pipeline :=
      { title := "T"
        parameters := [⟨"topic", none, true, false⟩, ⟨"draft", none, false, false⟩,
          ⟨"letter", none, false, true⟩]
        templates := [letter, draft] }
    validate p = .ok () ∧ strip p ≠ p ∧ validate (strip p) = .ok ()
      ∧ strip (strip p) = strip p := by
  intro draft letter p
  have valid : validate p = .ok () := by decide +kernel
  have prepared : strip p ≠ p := by decide +kernel
  obtain ⟨keeps, again⟩ := strip_valid p
  exact ⟨valid, prepared, keeps valid, again⟩

end PromptPipeline
