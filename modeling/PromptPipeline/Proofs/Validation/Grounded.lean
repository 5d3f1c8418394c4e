/-
# Proofs.Validation.Grounded -- what may be wrong with a pipeline whose names resolve

A pipeline is grounded if its version is one, its parameters have distinct names
that are free to use, and its templates only name results, personas and sources that
are there.  What the check may still find is about the URL, the names and bodies of
templates, what is not produced as declared, and cycles (`Grounded.code`).
-/
import PromptPipeline.Proofs.Validation.Executable

namespace PromptPipeline.Validation

set_option autoImplicit false

/-- A pipeline with a proper version and parameters, in which results, personas and
sources resolve. -/
structure Grounded (p : Pipeline) : Prop where
  version : ∀ version, p.version = some version → SemanticVersion.isValid version = true
  parametersDistinct : (p.parameters.map Parameter.name).Nodup
  notReserved : ∀ q ∈ p.parameters, q.name ∉ Name.reserved
  resultsDeclared : ∀ t ∈ p.templates, ∃ q ∈ p.parameters, q.name = t.result
  personasKnown : ∀ t ∈ p.templates, ∀ name, t.persona = some name → ∃ q ∈ p.personas, q.name = name
  sourcesKnown : ∀ t ∈ p.templates, ∀ name ∈ t.knowledge, ∃ s ∈ p.knowledge, s.name = name

namespace Grounded

variable {p : Pipeline} {t : Template} {v : Violation}

theorem code_head (grounded : Grounded p) (found : v ∈ head p) : v.code = "E001" := by
  rcases List.mem_append.1 found with found | found
  · obtain ⟨url, -, rfl⟩ := List.mem_map.1 found
    rfl
  · obtain ⟨version, kept, rfl⟩ := List.mem_map.1 found
    obtain ⟨given, invalid⟩ := List.mem_filter.1 kept
    rw [grounded.version version (Option.mem_toList.1 given)] at invalid
    cases invalid

theorem code_template (grounded : Grounded p) (ht : t ∈ p.templates) (found : v ∈ template p t) :
    v.code = "E006" ∨ v.code = "E007" := by
  unfold template at found
  simp only [List.mem_append] at found
  rcases found with (((found | found) | found) | found) | found
  · split at found
    · rw [List.mem_singleton.1 found]
      exact .inl rfl
    · cases found
  · obtain ⟨name, -, rfl⟩ := List.mem_map.1 found
    exact .inr rfl
  · split at found
    · rename_i missing
      exact absurd (grounded.resultsDeclared t ht) (parameter?_isNone_iff.1 missing)
    · cases found
  · obtain ⟨name, kept, -⟩ := List.mem_map.1 found
    obtain ⟨spoken, missing⟩ := List.mem_filter.1 kept
    exact absurd (grounded.personasKnown t ht name (Option.mem_toList.1 spoken))
      (persona?_isNone_iff.1 missing)
  · obtain ⟨name, kept, -⟩ := List.mem_map.1 found
    obtain ⟨linked, missing⟩ := List.mem_filter.1 kept
    exact absurd (grounded.sourcesKnown t ht name linked) (source?_isNone_iff.1 missing)

theorem code_templatesAfter (grounded : Grounded p) {seen : List String} {l : List Template}
    (part : ∀ t ∈ l, t ∈ p.templates) (found : v ∈ templatesAfter p seen l) :
    v.code = "E005" ∨ v.code = "E006" ∨ v.code = "E007" := by
  induction l generalizing seen with
  | nil => cases found
  | cons t rest ih =>
      obtain ⟨member, partRest⟩ := List.forall_mem_cons.1 part
      rw [templatesAfter, List.mem_append, List.mem_append] at found
      rcases found with (found | found) | found
      · split at found
        · rw [List.mem_singleton.1 found]
          exact .inl rfl
        · cases found
      · exact .inr (grounded.code_template member found)
      · exact ih partRest found

theorem code_producers (found : v ∈ producers p) :
    v.code = "E009" ∨ v.code = "E010" ∨ v.code = "E011" ∨ v.code = "E012" := by
  rcases List.mem_append.1 found with found | found
  · obtain ⟨name, -, rfl⟩ := List.mem_map.1 found
    exact .inl rfl
  · obtain ⟨q, -, wrong⟩ := List.mem_filterMap.1 found
    unfold declaration at wrong
    split at wrong
    · cases wrong
      exact .inr (.inl rfl)
    · cases wrong
    · cases wrong
    · cases wrong
      split
      · exact .inr (.inr (.inl rfl))
      · exact .inr (.inr (.inr rfl))

/-- **The codes that the check of a grounded pipeline may give.** -/
theorem code (grounded : Grounded p) (found : v ∈ violations p) :
    v.code ∈ ["E001", "E005", "E006", "E007", "E009", "E010", "E011", "E012", "E013"] := by
  unfold violations at found
  simp only [List.mem_append] at found
  rcases found with (((found | found) | found) | found) | found
  · rw [grounded.code_head found]
    decide
  · rw [parameters_eq_nil_iff.2 ⟨grounded.parametersDistinct, grounded.notReserved⟩] at found
    cases found
  · rcases grounded.code_templatesAfter (fun _ member => member) found with is | is | is
    all_goals
      rw [is]
      decide
  · rcases code_producers found with is | is | is | is
    all_goals
      rw [is]
      decide
  · obtain ⟨cycle, -, rfl⟩ := List.mem_map.1 found
    simp [Violation.code]

end Grounded

end PromptPipeline.Validation
