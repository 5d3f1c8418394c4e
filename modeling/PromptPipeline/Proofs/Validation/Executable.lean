/-
# Proofs.Validation.Executable -- the valid pipelines are the executable ones

`Executable` says without any algorithm what makes a pipeline fit to run: a well
shaped head, distinct names, references that resolve, one producer for every
parameter that is no input, and an order of the templates in which every dependent
is there when it is needed.  `validate_eq_ok_iff` says that the check accepts these
pipelines and no others; there is one lemma for each of its passes.
-/
import PromptPipeline.Proofs.Validation.Head
import PromptPipeline.Proofs.Validation.Sorting

namespace PromptPipeline.Validation

set_option autoImplicit false

/-! ## Executable pipelines -/

/-- Every dependent of each template is an input or the result of a template before
it. -/
def IsExecutionOrder (p : Pipeline) (order : List Template) : Prop :=
  ∀ before t after, order = before ++ t :: after → ∀ name ∈ t.dependents,
    (∃ q ∈ p.parameters, q.name = name ∧ q.isInput = true) ∨ ∃ u ∈ before, u.result = name

/-- What it takes to run a pipeline. -/
structure Executable (p : Pipeline) : Prop where
  url : ∀ url, p.url = some url → IsPublished url
  version : ∀ version, p.version = some version → SemanticVersion.IsSemantic version
  parametersDistinct : (p.parameters.map Parameter.name).Nodup
  notReserved : ∀ q ∈ p.parameters, q.name ∉ Name.reserved
  templatesDistinct : (p.templates.map Template.name).Nodup
  notBlank : ∀ t ∈ p.templates, ∃ c ∈ t.content.toList, Unicode.isBlank c = false
  dependentsDeclared : ∀ t ∈ p.templates, ∀ name ∈ t.dependents, ∃ q ∈ p.parameters, q.name = name
  resultsDeclared : ∀ t ∈ p.templates, ∃ q ∈ p.parameters, q.name = t.result
  personasKnown : ∀ t ∈ p.templates, ∀ name, t.persona = some name → ∃ q ∈ p.personas, q.name = name
  sourcesKnown : ∀ t ∈ p.templates, ∀ name ∈ t.knowledge, ∃ s ∈ p.knowledge, s.name = name
  resultsDistinct : (p.templates.map Template.result).Nodup
  inputsGiven : ∀ q ∈ p.parameters, q.isInput = true → ∀ t ∈ p.templates, t.result ≠ q.name
  othersProduced : ∀ q ∈ p.parameters, q.isInput = false → ∃ t ∈ p.templates, t.result = q.name
  ordered : ∃ order, order.Perm p.templates ∧ IsExecutionOrder p order

/-! ## Lookups -/

theorem parameter?_isNone_iff {p : Pipeline} {name : String} :
    (p.parameter? name).isNone = true ↔ ¬ ∃ q ∈ p.parameters, q.name = name := by
  simp [Pipeline.parameter?]

theorem producer?_eq_none_iff {p : Pipeline} {name : String} :
    p.producer? name = none ↔ ∀ t ∈ p.templates, t.result ≠ name := by
  simp [Pipeline.producer?]

theorem persona?_isNone_iff {p : Pipeline} {name : String} :
    (p.persona? name).isNone = true ↔ ¬ ∃ q ∈ p.personas, q.name = name := by
  simp [Pipeline.persona?]

theorem source?_isNone_iff {p : Pipeline} {name : String} :
    (p.source? name).isNone = true ↔ ¬ ∃ s ∈ p.knowledge, s.name = name := by
  simp [Pipeline.source?]

/-- Something has a name among those that have the same names. -/
theorem exists_name_iff {α : Type} {name : α → String} {l l' : List α}
    (same : l'.map name = l.map name) {text : String} :
    (∃ a ∈ l', name a = text) ↔ ∃ a ∈ l, name a = text := by
  rw [← List.mem_map, same, List.mem_map]

/-! ## Parameters and templates -/

/-- A list of names is fresh if none has been seen and none comes twice. -/
def Fresh (seen names : List String) : Prop := (∀ name ∈ names, name ∉ seen) ∧ names.Nodup

theorem fresh_nil_iff {names : List String} : Fresh [] names ↔ names.Nodup := by
  simp [Fresh]

theorem fresh_cons_iff {seen names : List String} {name : String} :
    Fresh seen (name :: names) ↔ name ∉ seen ∧ Fresh (name :: seen) names := by
  unfold Fresh
  rw [List.forall_mem_cons, List.nodup_cons]
  constructor
  · rintro ⟨⟨first, rest⟩, other, unique⟩
    refine ⟨first, fun x hx => ?_, unique⟩
    rintro member
    rcases List.mem_cons.1 member with rfl | member
    · exact other hx
    · exact rest x hx member
  · rintro ⟨first, rest, unique⟩
    exact ⟨⟨first, fun x hx member => rest x hx (List.mem_cons_of_mem _ member)⟩,
      fun member => rest name member List.mem_cons_self, unique⟩

theorem parametersAfter_eq_nil_iff (seen : List String) (l : List Parameter) :
    parametersAfter seen l = []
      ↔ Fresh seen (l.map Parameter.name) ∧ ∀ q ∈ l, q.name ∉ Name.reserved := by
  induction l generalizing seen with
  | nil => simp [parametersAfter, Fresh]
  | cons q rest ih =>
      rw [parametersAfter, List.append_eq_nil_iff, List.append_eq_nil_iff, ih, List.map_cons,
        fresh_cons_iff, List.forall_mem_cons]
      have first : (if seen.contains q.name then [Violation.parameterTwice q.name] else []) = []
          ↔ q.name ∉ seen := by simp
      have second :
          (if Name.isReserved q.name then [Violation.reservedParameter q.name] else []) = []
          ↔ q.name ∉ Name.reserved := by simp [Name.isReserved]
      rw [first, second]
      tauto

theorem parameters_eq_nil_iff {p : Pipeline} :
    parameters p = []
      ↔ (p.parameters.map Parameter.name).Nodup ∧ ∀ q ∈ p.parameters, q.name ∉ Name.reserved := by
  rw [parameters, parametersAfter_eq_nil_iff, fresh_nil_iff]

/-- What the check of one template asks. -/
structure Resolved (p : Pipeline) (t : Template) : Prop where
  notBlank : ∃ c ∈ t.content.toList, Unicode.isBlank c = false
  dependents : ∀ name ∈ t.dependents, ∃ q ∈ p.parameters, q.name = name
  result : ∃ q ∈ p.parameters, q.name = t.result
  persona : ∀ name, t.persona = some name → ∃ q ∈ p.personas, q.name = name
  knowledge : ∀ name ∈ t.knowledge, ∃ s ∈ p.knowledge, s.name = name

theorem template_eq_nil_iff {p : Pipeline} {t : Template} : template p t = [] ↔ Resolved p t := by
  have blank : (if Text.blank t.content then [Violation.emptyContent t.title] else []) = []
      ↔ ∃ c ∈ t.content.toList, Unicode.isBlank c = false := by
    simp [Text.blank]
  have result : (if (p.parameter? t.result).isNone then
      [Violation.resultNotDeclared t.title t.result] else []) = []
      ↔ ∃ q ∈ p.parameters, q.name = t.result := by
    rw [ite_eq_right_iff]
    simp only [List.cons_ne_nil, imp_false, parameter?_isNone_iff, not_not]
  unfold template
  rw [List.append_eq_nil_iff, List.append_eq_nil_iff, List.append_eq_nil_iff,
    List.append_eq_nil_iff, blank, result]
  simp only [List.map_eq_nil_iff, List.filter_eq_nil_iff, parameter?_isNone_iff,
    persona?_isNone_iff, source?_isNone_iff, not_not, Option.mem_toList]
  constructor
  · rintro ⟨⟨⟨⟨notBlank, dependents⟩, result⟩, persona⟩, knowledge⟩
    exact ⟨notBlank, dependents, result, persona, knowledge⟩
  · rintro ⟨notBlank, dependents, result, persona, knowledge⟩
    exact ⟨⟨⟨⟨notBlank, dependents⟩, result⟩, persona⟩, knowledge⟩

theorem templatesAfter_eq_nil_iff (p : Pipeline) (seen : List String) (l : List Template) :
    templatesAfter p seen l = []
      ↔ Fresh seen (l.map Template.name) ∧ ∀ t ∈ l, Resolved p t := by
  induction l generalizing seen with
  | nil => simp [templatesAfter, Fresh]
  | cons t rest ih =>
      rw [templatesAfter, List.append_eq_nil_iff, List.append_eq_nil_iff, ih, List.map_cons,
        fresh_cons_iff, List.forall_mem_cons, template_eq_nil_iff]
      have first : (if seen.contains t.name then [Violation.templateNameTwice t.name] else []) = []
          ↔ t.name ∉ seen := by simp
      rw [first]
      tauto

theorem templates_eq_nil_iff {p : Pipeline} :
    templates p = []
      ↔ (p.templates.map Template.name).Nodup ∧ ∀ t ∈ p.templates, Resolved p t := by
  rw [templates, templatesAfter_eq_nil_iff, fresh_nil_iff]

/-! ## Producers -/

theorem length_producerTitles (p : Pipeline) (name : String) :
    (producerTitles p name).length = (p.templates.map Template.result).count name := by
  rw [producerTitles, List.length_map, ← List.countP_eq_length_filter, List.count, List.countP_map]
  rfl

theorem severalProducers_eq_nil_iff {p : Pipeline} :
    severalProducers p = [] ↔ (p.templates.map Template.result).Nodup := by
  unfold severalProducers
  rw [List.map_eq_nil_iff, List.filter_eq_nil_iff, List.nodup_iff_count_le_one]
  simp only [length_producerTitles, decide_eq_true_eq, Nat.not_lt]
  constructor
  · intro few name
    by_cases member : name ∈ p.templates.map Template.result
    · exact few name (NameSet.mem_ofList.2 member)
    · rw [List.count_eq_zero_of_not_mem member]
      exact Nat.zero_le 1
  · intro few name _
    exact few name

theorem declaration_eq_none_iff {p : Pipeline} {q : Parameter} :
    declaration p q = none
      ↔ (q.isInput = true → ∀ t ∈ p.templates, t.result ≠ q.name)
        ∧ (q.isInput = false → ∃ t ∈ p.templates, t.result = q.name) := by
  rw [← producer?_eq_none_iff]
  have produced : (∃ t ∈ p.templates, t.result = q.name) ↔ p.producer? q.name ≠ none := by
    rw [ne_eq, producer?_eq_none_iff]
    push Not
    rfl
  rw [produced]
  unfold declaration
  cases q.isInput <;> cases p.producer? q.name <;> simp

theorem producers_eq_nil_iff {p : Pipeline} :
    producers p = []
      ↔ (p.templates.map Template.result).Nodup
        ∧ (∀ q ∈ p.parameters, q.isInput = true → ∀ t ∈ p.templates, t.result ≠ q.name)
        ∧ ∀ q ∈ p.parameters, q.isInput = false → ∃ t ∈ p.templates, t.result = q.name := by
  rw [producers, List.append_eq_nil_iff, severalProducers_eq_nil_iff, List.filterMap_eq_nil_iff]
  simp only [declaration_eq_none_iff]
  constructor
  · rintro ⟨unique, fits⟩
    exact ⟨unique, fun q hq => (fits q hq).1, fun q hq => (fits q hq).2⟩
  · rintro ⟨unique, inputs, others⟩
    exact ⟨unique, fun q hq => ⟨inputs q hq, others q hq⟩⟩

/-! ## Cycles -/

theorem size_ofTemplates (templates : List Template) :
    (Graph.ofTemplates templates).size = templates.length := by
  simp [Graph.ofTemplates, Graph.size]

/-- A template waits for the first producers of its dependents. -/
theorem mem_waitsFor_ofTemplates {templates : List Template} {i j : Nat} :
    j ∈ (Graph.ofTemplates templates).waitsFor i
      ↔ ∃ t, templates[i]? = some t ∧ ∃ name ∈ t.dependents,
        templates.findIdx? (·.result == name) = some j := by
  unfold Graph.ofTemplates Graph.waitsFor
  simp only [List.getD_eq_getElem?_getD, List.getElem?_map]
  cases templates[i]? with
  | none => simp
  | some t =>
      simp only [Option.map_some, Option.getD_some, List.mem_filterMap, Option.some.injEq,
        exists_eq_left']
      rfl

theorem closed_ofTemplates (templates : List Template) : (Graph.ofTemplates templates).Closed := by
  intro i j waits
  obtain ⟨t, -, name, -, found⟩ := mem_waitsFor_ofTemplates.1 waits
  obtain ⟨inside, -⟩ := List.findIdx?_eq_some_iff_getElem.1 found
  rwa [size_ofTemplates]

/-- Where no two templates have one result, it finds its template. -/
theorem findIdx?_result {templates : List Template}
    (unique : (templates.map Template.result).Nodup) {i : Nat} {t : Template}
    (found : templates[i]? = some t) : templates.findIdx? (·.result == t.result) = some i := by
  obtain ⟨inside, rfl⟩ := List.getElem?_eq_some_iff.1 found
  refine List.findIdx?_eq_some_iff_getElem.2 ⟨inside, by simp, fun k hk same => ?_⟩
  have inside' : k < templates.length := by omega
  have apart := List.pairwise_iff_getElem.1 (List.pairwise_map.1 unique) k i inside' inside hk
  exact apart (by simpa using same)

/-- Where a template stands, known by its result. -/
def position (templates : List Template) (t : Template) : Nat :=
  templates.findIdx (·.result == t.result)

theorem position_eq {templates : List Template}
    (unique : (templates.map Template.result).Nodup) {i : Nat} {t : Template}
    (found : templates[i]? = some t) : position templates t = i := by
  have first := findIdx?_result unique found
  rw [List.findIdx?_eq_some_iff_findIdx_eq] at first
  exact first.2

section

variable {p : Pipeline} (unique : (p.templates.map Template.result).Nodup)

include unique

/-- An order in which templates can be sorted is one in which they can be executed. -/
theorem isExecutionOrder_of_isOrder
    (others : ∀ q ∈ p.parameters, q.isInput = false → ∃ t ∈ p.templates, t.result = q.name)
    (declared : ∀ t ∈ p.templates, ∀ name ∈ t.dependents, ∃ q ∈ p.parameters, q.name = name)
    {order : List Nat} (perm : order.Perm (List.range p.templates.length))
    (ordered : (Graph.ofTemplates p.templates).IsOrder order) :
    IsExecutionOrder p (order.map fun i => p.templates.getD i default) := by
  intro before t after split name hname
  obtain ⟨front, back, rfl, rfl, rest⟩ := List.map_eq_append_iff.1 split
  obtain ⟨i, tail, rfl, rfl, rfl⟩ := List.map_eq_cons_iff.1 rest
  have inside : i < p.templates.length := by
    rw [← List.mem_range, ← perm.mem_iff]
    simp
  have atI : p.templates[i]? = some (p.templates.getD i default) := by
    simp [List.getD_eq_getElem?_getD, inside]
  obtain ⟨q, hq, rfl⟩ := declared _ (List.mem_of_getElem? atI) name hname
  cases input : q.isInput with
  | true => exact Or.inl ⟨q, hq, rfl, input⟩
  | false =>
      obtain ⟨u, hu, result⟩ := others q hq input
      obtain ⟨j, atJ⟩ := List.mem_iff_getElem?.1 hu
      have waits : j ∈ (Graph.ofTemplates p.templates).waitsFor i :=
        mem_waitsFor_ofTemplates.2 ⟨_, atI, q.name, hname, result ▸ findIdx?_result unique atJ⟩
      refine Or.inr ⟨u, List.mem_map.2 ⟨j, ordered front i tail rfl j waits, ?_⟩, result⟩
      simp [List.getD_eq_getElem?_getD, atJ]

/-- An order in which templates can be executed is one in which they can be sorted. -/
theorem isOrder_of_isExecutionOrder
    (inputs : ∀ q ∈ p.parameters, q.isInput = true → ∀ t ∈ p.templates, t.result ≠ q.name)
    {order : List Template} (perm : order.Perm p.templates) (ordered : IsExecutionOrder p order) :
    (Graph.ofTemplates p.templates).IsOrder (order.map (position p.templates)) := by
  intro before i after split j waits
  obtain ⟨front, back, rfl, rfl, rest⟩ := List.map_eq_append_iff.1 split
  obtain ⟨t, tail, rfl, rfl, rfl⟩ := List.map_eq_cons_iff.1 rest
  have member : t ∈ p.templates := perm.mem_iff.1 (by simp)
  obtain ⟨k, atK⟩ := List.mem_iff_getElem?.1 member
  obtain ⟨t', atT, name, hname, found⟩ := mem_waitsFor_ofTemplates.1 waits
  obtain rfl : t = t' := by
    rw [position_eq unique atK, atK] at atT
    exact Option.some.inj atT
  obtain ⟨inside, result, -⟩ := List.findIdx?_eq_some_iff_getElem.1 found
  have result' : p.templates[j].result = name := by simpa using result
  rcases ordered front t tail rfl name hname with ⟨q, hq, rfl, input⟩ | ⟨u, hu, same⟩
  · exact absurd result' (inputs q hq input _ (List.getElem_mem inside))
  · have hu' : u ∈ p.templates := perm.mem_iff.1 (List.mem_append_left _ hu)
    obtain ⟨m, atM⟩ := List.mem_iff_getElem?.1 hu'
    have first := findIdx?_result unique atM
    rw [same, found] at first
    refine List.mem_map.2 ⟨u, hu, ?_⟩
    rw [position_eq unique atM]
    exact (Option.some.inj first).symm

/-- **No cycle is reported exactly if the templates can be executed in some order.** -/
theorem cycles_eq_nil_iff
    (inputs : ∀ q ∈ p.parameters, q.isInput = true → ∀ t ∈ p.templates, t.result ≠ q.name)
    (others : ∀ q ∈ p.parameters, q.isInput = false → ∃ t ∈ p.templates, t.result = q.name)
    (declared : ∀ t ∈ p.templates, ∀ name ∈ t.dependents, ∃ q ∈ p.parameters, q.name = name) :
    cycles p = [] ↔ ∃ order, order.Perm p.templates ∧ IsExecutionOrder p order := by
  rw [cycles, List.map_eq_nil_iff, Graph.cycles_eq_nil_iff (closed_ofTemplates _), size_ofTemplates]
  constructor
  · rintro ⟨order, perm, ordered⟩
    have all : (List.range p.templates.length).map (fun i => p.templates.getD i default)
        = p.templates := by
      refine List.ext_getElem (by simp) fun i h₁ h₂ => ?_
      simp [List.getD_eq_getElem?_getD, h₂]
    exact ⟨_, (perm.map _).trans (List.Perm.of_eq all),
      isExecutionOrder_of_isOrder unique others declared perm ordered⟩
  · rintro ⟨order, perm, ordered⟩
    have all : p.templates.map (position p.templates) = List.range p.templates.length := by
      refine List.ext_getElem (by simp) fun i h₁ h₂ => ?_
      have inside : i < p.templates.length := by simpa using h₁
      simpa using position_eq unique (List.getElem?_eq_getElem inside)
    exact ⟨_, (perm.map _).trans (List.Perm.of_eq all),
      isOrder_of_isExecutionOrder unique inputs perm ordered⟩

end

/-! ## The whole check -/

theorem violations_eq_nil_iff {p : Pipeline} : violations p = [] ↔ Executable p := by
  unfold violations
  rw [List.append_eq_nil_iff, List.append_eq_nil_iff, List.append_eq_nil_iff,
    List.append_eq_nil_iff, head_eq_nil_iff, parameters_eq_nil_iff, templates_eq_nil_iff,
    producers_eq_nil_iff]
  constructor
  · rintro ⟨⟨⟨⟨⟨url, version⟩, distinct, notReserved⟩, names, resolved⟩, producers⟩, none⟩
    obtain ⟨unique, inputs, others⟩ := producers
    have declared := fun t ht => (resolved t ht).dependents
    exact {
      url := url
      version := version
      parametersDistinct := distinct
      notReserved := notReserved
      templatesDistinct := names
      notBlank := fun t ht => (resolved t ht).notBlank
      dependentsDeclared := declared
      resultsDeclared := fun t ht => (resolved t ht).result
      personasKnown := fun t ht => (resolved t ht).persona
      sourcesKnown := fun t ht => (resolved t ht).knowledge
      resultsDistinct := unique
      inputsGiven := inputs
      othersProduced := others
      ordered := (cycles_eq_nil_iff unique inputs others declared).1 none }
  · intro e
    have resolved : ∀ t ∈ p.templates, Resolved p t := fun t ht =>
      ⟨e.notBlank t ht, e.dependentsDeclared t ht, e.resultsDeclared t ht, e.personasKnown t ht,
        e.sourcesKnown t ht⟩
    have none := (cycles_eq_nil_iff e.resultsDistinct e.inputsGiven e.othersProduced
      e.dependentsDeclared).2 e.ordered
    exact ⟨⟨⟨⟨⟨e.url, e.version⟩, e.parametersDistinct, e.notReserved⟩,
      e.templatesDistinct, resolved⟩, e.resultsDistinct, e.inputsGiven, e.othersProduced⟩, none⟩

theorem validate_eq_ok_iff_violations {p : Pipeline} :
    validate p = .ok () ↔ violations p = [] := by
  unfold validate
  cases violations p with
  | nil => simp
  | cons first rest => simp

/-- **The check accepts exactly the executable pipelines.** -/
theorem validate_eq_ok_iff (p : Pipeline) : validate p = .ok () ↔ Executable p :=
  validate_eq_ok_iff_violations.trans violations_eq_nil_iff

end PromptPipeline.Validation
