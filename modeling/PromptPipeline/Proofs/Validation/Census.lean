/-
# Proofs.Validation.Census -- how often each violation is found

`census` says for every violation, apart from cycles, how often it is found in a pipeline, by
counting declarations and templates and without the passes of the check.  `count_violations`
says that the check finds exactly these, so that no rule hides another and nothing is told
twice.

What a pass keeps in mind are the names that it has seen.  Both passes that do tell a name
at each of its `repeats`, which are one less than its occurrences (`count_repeats`).
-/
import PromptPipeline.Proofs.Name.Set
import PromptPipeline.Proofs.Validation.Grounded
import Mathlib.Data.List.Count
import Mathlib.Algebra.GroupWithZero.Nat

namespace PromptPipeline

set_option autoImplicit false

/-! ## What is counted -/

namespace Pipeline

/-- The declarations of a parameter. -/
def declarations (p : Pipeline) (name : String) : List Parameter :=
  p.parameters.filter (·.name == name)

/-- The templates that result in a parameter. -/
def producersOf (p : Pipeline) (name : String) : List Template :=
  p.templates.filter (·.result == name)

/-- The templates under a title. -/
def titled (p : Pipeline) (title : String) : List Template :=
  p.templates.filter (·.title == title)

end Pipeline

namespace Validation

/-- **How often a violation is found.** -/
def census (p : Pipeline) : Violation → Nat
  | .invalidUrl url => if p.url = some url ∧ isHttpsUrl url = false then 1 else 0
  | .invalidVersion version =>
      if p.version = some version ∧ SemanticVersion.isValid version = false then 1 else 0
  | .parameterTwice name => (p.declarations name).length - 1
  | .reservedParameter name => if name ∈ Name.reserved then (p.declarations name).length else 0
  | .templateNameTwice name => p.templates.countP (·.name == name) - 1
  | .emptyContent title => (p.titled title).countP (Text.blank ·.content)
  | .undefinedParameter title name =>
      if p.declarations name = [] then (p.titled title).countP (name ∈ ·.dependents) else 0
  | .resultNotDeclared title name =>
      if p.declarations name = [] then (p.titled title).countP (·.result = name) else 0
  | .severalProducers name titles =>
      if 2 ≤ (p.producersOf name).length ∧ titles = (p.producersOf name).map (·.title) then 1
      else 0
  | .inputProduced name title =>
      if (p.producersOf name).head?.map (·.title) = some title then
        (p.declarations name).countP (·.isInput)
      else 0
  | .outputNotProduced name =>
      if p.producersOf name = [] then
        (p.declarations name).countP fun q => !q.isInput && q.isOutput
      else 0
  | .unresolved name =>
      if p.producersOf name = [] then
        (p.declarations name).countP fun q => !q.isInput && !q.isOutput
      else 0
  | .cycle _ => 0
  | .unknownPersona title persona =>
      if ∀ q ∈ p.personas, q.name ≠ persona then
        (p.titled title).countP (·.persona = some persona)
      else 0
  | .unknownSource title source =>
      if ∀ s ∈ p.knowledge, s.name ≠ source then
        ((p.titled title).flatMap (·.knowledge)).count source
      else 0

/-! ## Names that come again -/

/-- The names that have been seen when their turn comes. -/
def repeats (seen : List String) : List String → List String
  | [] => []
  | name :: rest => (if seen.contains name then [name] else []) ++ repeats (name :: seen) rest

theorem count_repeats (seen names : List String) (name : String) :
    (repeats seen names).count name = names.count name - if name ∈ seen then 0 else 1 := by
  induction names generalizing seen with
  | nil => simp [repeats]
  | cons first rest ih =>
      rw [repeats, List.count_append, ih, List.count_cons]
      by_cases same : first = name
      · subst same
        by_cases member : first ∈ seen
        · simp [member]
          omega
        · simp [member]
      · have other : ¬name = first := fun h => same h.symm
        by_cases member : first ∈ seen
        · simp [member, same, other]
        · simp [member, same, other]

variable {p : Pipeline}

/-! ## What one rule tells -/

/-- A rule never tells what another one does. -/
theorem count_map_other {α : Type} (rule : α → Violation) (v : Violation)
    (other : ∀ a, rule a ≠ v) {l : List α} : (l.map rule).count v = 0 := by
  refine List.count_eq_zero_of_not_mem fun member => ?_
  obtain ⟨a, -, same⟩ := List.mem_map.1 member
  exact other a same

/-- A rule tells of what breaks it as often as it is there. -/
theorem count_map_filter (rule : String → Violation) (injective : Function.Injective rule)
    (breaks : String → Bool) (l : List String) (text : String) :
    ((l.filter breaks).map rule).count (rule text) = if breaks text then l.count text else 0 := by
  rw [List.count_map_of_injective _ _ injective]
  cases broken : breaks text with
  | true => exact List.count_filter broken
  | false => exact List.count_eq_zero_of_not_mem (by simp [broken])

theorem count_toList (given : Option String) (text : String) :
    given.toList.count text = if given = some text then 1 else 0 := by
  cases given with
  | none => rfl
  | some other => simp [List.count_singleton]

/-! ## The head -/

theorem count_head (v : Violation) :
    (head p).count v = match v with
      | .invalidUrl url => if p.url = some url ∧ isHttpsUrl url = false then 1 else 0
      | .invalidVersion version =>
          if p.version = some version ∧ SemanticVersion.isValid version = false then 1 else 0
      | _ => 0 := by
  unfold head
  rw [List.count_append]
  cases v with
  | invalidUrl url =>
      rw [count_map_filter _ fun _ _ h => Violation.invalidUrl.inj h, count_toList,
        count_map_other .invalidVersion (.invalidUrl url) (by simp)]
      dsimp only
      cases isHttpsUrl url <;> simp
  | invalidVersion version =>
      rw [count_map_filter _ fun _ _ h => Violation.invalidVersion.inj h, count_toList,
        count_map_other .invalidUrl (.invalidVersion version) (by simp)]
      dsimp only
      cases SemanticVersion.isValid version <;> simp
  | _ => simp [List.count_eq_zero]

/-! ## Parameters -/

theorem count_parametersAfter (seen : List String) (l : List Parameter) (v : Violation) :
    (parametersAfter seen l).count v
      = ((repeats seen (l.map Parameter.name)).map .parameterTwice).count v
        + (((l.map Parameter.name).filter Name.isReserved).map .reservedParameter).count v := by
  induction l generalizing seen with
  | nil => rfl
  | cons q rest ih =>
      rw [parametersAfter, List.map_cons, repeats, List.map_append, List.filter_cons,
        List.count_append, List.count_append, List.count_append, ih]
      cases seen.contains q.name <;> cases Name.isReserved q.name
        <;> simp [List.count_cons] <;> omega

theorem length_declarations (p : Pipeline) (name : String) :
    (p.declarations name).length = (p.parameters.map Parameter.name).count name := by
  rw [Pipeline.declarations, ← List.countP_eq_length_filter, List.count, List.countP_map]
  rfl

theorem count_parameters (v : Violation) :
    (parameters p).count v = match v with
      | .parameterTwice name => (p.declarations name).length - 1
      | .reservedParameter name =>
          if name ∈ Name.reserved then (p.declarations name).length else 0
      | _ => 0 := by
  rw [parameters, count_parametersAfter]
  cases v with
  | parameterTwice name =>
      rw [List.count_map_of_injective _ _ fun _ _ h => Violation.parameterTwice.inj h,
        count_repeats, ← length_declarations,
        count_map_other .reservedParameter (.parameterTwice name) (by simp)]
      simp
  | reservedParameter name =>
      rw [count_map_filter _ fun _ _ h => Violation.reservedParameter.inj h, ← length_declarations,
        count_map_other .parameterTwice (.reservedParameter name) (by simp)]
      simp [Name.isReserved]
  | _ => simp [List.count_eq_zero]

/-! ## Templates -/

theorem count_templatesAfter (seen : List String) (l : List Template) (v : Violation) :
    (templatesAfter p seen l).count v
      = ((repeats seen (l.map Template.name)).map .templateNameTwice).count v
        + (l.flatMap (template p)).count v := by
  induction l generalizing seen with
  | nil => rfl
  | cons t rest ih =>
      rw [templatesAfter, List.map_cons, repeats, List.map_append, List.flatMap_cons,
        List.count_append, List.count_append, List.count_append, List.count_append, ih]
      cases seen.contains t.name <;> simp [List.count_cons] <;> omega

theorem declarations_eq_nil_iff {name : String} :
    p.declarations name = [] ↔ (p.parameter? name).isNone = true := by
  simp [Pipeline.declarations, Pipeline.parameter?]

/-- The template that a violation is about, by its title. -/
def title? : Violation → Option String
  | .emptyContent title | .undefinedParameter title _ | .resultNotDeclared title _
  | .unknownPersona title _ | .unknownSource title _ => some title
  | _ => none

theorem title?_of_mem_template {t : Template} {v : Violation} (member : v ∈ template p t) :
    title? v = some t.title := by
  simp only [template, List.mem_append] at member
  rcases member with (((member | member) | member) | member) | member
  · split at member
    · rw [List.mem_singleton.1 member]
      rfl
    · cases member
  · obtain ⟨name, -, rfl⟩ := List.mem_map.1 member
    rfl
  · split at member
    · rw [List.mem_singleton.1 member]
      rfl
    · cases member
  · obtain ⟨name, -, rfl⟩ := List.mem_map.1 member
    rfl
  · obtain ⟨name, -, rfl⟩ := List.mem_map.1 member
    rfl

/-- How often a violation is told of a template under its title. -/
def own (p : Pipeline) (t : Template) : Violation → Nat
  | .emptyContent _ => if Text.blank t.content then 1 else 0
  | .undefinedParameter _ name =>
      if p.declarations name = [] then if name ∈ t.dependents then 1 else 0 else 0
  | .resultNotDeclared _ name =>
      if p.declarations name = [] then if t.result = name then 1 else 0 else 0
  | .unknownPersona _ persona =>
      if ∀ q ∈ p.personas, q.name ≠ persona then if t.persona = some persona then 1 else 0 else 0
  | .unknownSource _ source =>
      if ∀ s ∈ p.knowledge, s.name ≠ source then t.knowledge.count source else 0
  | _ => 0

theorem count_template (t : Template) (v : Violation) (titled : title? v = some t.title) :
    (template p t).count v = own p t v := by
  simp only [template, List.count_append]
  cases v with
  | emptyContent title =>
      cases titled
      cases blank : Text.blank t.content <;> simp [List.count_eq_zero_of_not_mem, own, blank]
  | undefinedParameter title name =>
      cases titled
      have told := count_map_filter (.undefinedParameter t.title)
        (fun _ _ h => (Violation.undefinedParameter.inj h).2)
        (fun name => (p.parameter? name).isNone) t.dependents.toList name
      simp only [t.dependents.nodup_toList.count, ← declarations_eq_nil_iff] at told
      simp [told, own, List.count_eq_zero_of_not_mem]
      rfl
  | resultNotDeclared title name =>
      cases titled
      simp only [own, declarations_eq_nil_iff]
      by_cases same : t.result = name
      · subst same
        cases (p.parameter? t.result).isNone <;> simp [List.count_eq_zero_of_not_mem]
      · simp [List.count_eq_zero_of_not_mem, same, Ne.symm same]
  | unknownPersona title persona =>
      cases titled
      have told := count_map_filter (.unknownPersona t.title)
        (fun _ _ h => (Violation.unknownPersona.inj h).2)
        (fun name => (p.persona? name).isNone) t.persona.toList persona
      rw [count_toList] at told
      simp only [persona?_isNone_iff] at told
      simp [told, own, List.count_eq_zero_of_not_mem]
  | unknownSource title source =>
      cases titled
      have told := count_map_filter (.unknownSource t.title)
        (fun _ _ h => (Violation.unknownSource.inj h).2)
        (fun name => (p.source? name).isNone) t.knowledge source
      simp only [source?_isNone_iff] at told
      simp [told, own, List.count_eq_zero_of_not_mem]
  | _ => cases titled

theorem count_flatMap_template (l : List Template) (v : Violation) :
    (l.flatMap (template p)).count v = match title? v with
      | some title => ((l.filter (·.title == title)).map (own p · v)).sum
      | none => 0 := by
  induction l with
  | nil => cases title? v <;> rfl
  | cons t rest ih =>
      rw [List.flatMap_cons, List.count_append, ih]
      by_cases titled : title? v = some t.title
      · rw [count_template t v titled, titled]
        simp
      · have untold : (template p t).count v = 0 :=
          List.count_eq_zero_of_not_mem fun member => titled (title?_of_mem_template member)
        rw [untold, Nat.zero_add]
        cases about : title? v with
        | none => rfl
        | some title =>
            have other : (t.title == title) = false := by
              rw [beq_eq_false_iff_ne]
              rintro rfl
              exact titled about
            simp only [List.filter_cons, other, Bool.false_eq_true, if_false]

theorem sum_map_indicator (l : List Template) (test : Template → Prop) [DecidablePred test] :
    (l.map fun t => if test t then 1 else 0).sum = l.countP (test ·) := by
  induction l with
  | nil => rfl
  | cons t rest ih =>
      rw [List.map_cons, List.sum_cons, ih, List.countP_cons, Nat.add_comm]
      simp

theorem sum_map_if (l : List Template) (condition : Prop) [Decidable condition]
    (f : Template → Nat) :
    (l.map fun t => if condition then f t else 0).sum
      = if condition then (l.map f).sum else 0 := by
  split
  · rfl
  · simp

theorem count_templates (v : Violation) :
    (templates p).count v = match v with
      | .templateNameTwice name => p.templates.countP (·.name == name) - 1
      | .emptyContent title => (p.titled title).countP (Text.blank ·.content)
      | .undefinedParameter title name =>
          if p.declarations name = [] then (p.titled title).countP (name ∈ ·.dependents) else 0
      | .resultNotDeclared title name =>
          if p.declarations name = [] then (p.titled title).countP (·.result = name) else 0
      | .unknownPersona title persona =>
          if ∀ q ∈ p.personas, q.name ≠ persona then
            (p.titled title).countP (·.persona = some persona)
          else 0
      | .unknownSource title source =>
          if ∀ s ∈ p.knowledge, s.name ≠ source then
            ((p.titled title).flatMap (·.knowledge)).count source
          else 0
      | _ => 0 := by
  rw [templates, count_templatesAfter, count_flatMap_template]
  cases v with
  | templateNameTwice name =>
      rw [List.count_map_of_injective _ _ fun _ _ h => Violation.templateNameTwice.inj h,
        count_repeats, List.count, List.countP_map]
      simp [title?]
      rfl
  | emptyContent title =>
      rw [count_map_other .templateNameTwice (.emptyContent title) (by simp), Nat.zero_add]
      exact (sum_map_indicator _ _).trans (by simp [Pipeline.titled])
  | undefinedParameter title name =>
      rw [count_map_other .templateNameTwice (.undefinedParameter title name) (by simp),
        Nat.zero_add]
      simp only [title?, own, sum_map_if, sum_map_indicator, Pipeline.titled]
  | resultNotDeclared title name =>
      rw [count_map_other .templateNameTwice (.resultNotDeclared title name) (by simp),
        Nat.zero_add]
      simp only [title?, own, sum_map_if, sum_map_indicator, Pipeline.titled]
  | unknownPersona title persona =>
      rw [count_map_other .templateNameTwice (.unknownPersona title persona) (by simp),
        Nat.zero_add]
      simp only [title?, own, sum_map_if, sum_map_indicator, Pipeline.titled]
  | unknownSource title source =>
      rw [count_map_other .templateNameTwice (.unknownSource title source) (by simp),
        Nat.zero_add]
      simp only [title?, own, sum_map_if, List.count_flatMap, Pipeline.titled]
      rfl
  | _ => simp [List.count_eq_zero, title?]

/-! ## Producers -/

theorem nodup_severalProducers : (severalProducers p).Nodup := by
  have names := NameSet.nodup_toList (.ofList (p.templates.map (·.result)))
  refine List.Nodup.map ?_ (names.filter _)
  exact fun _ _ same => (Violation.severalProducers.inj same).1

theorem mem_severalProducers_iff {name : String} {titles : List String} :
    .severalProducers name titles ∈ severalProducers p
      ↔ 2 ≤ (p.producersOf name).length ∧ titles = (p.producersOf name).map (·.title) := by
  have titlesOf : ∀ name, producerTitles p name = (p.producersOf name).map (·.title) := fun _ => rfl
  unfold severalProducers
  simp only [List.mem_map, List.mem_filter, decide_eq_true_eq, titlesOf, List.length_map]
  constructor
  · rintro ⟨_, ⟨-, several⟩, same⟩
    cases same
    exact ⟨several, rfl⟩
  · rintro ⟨several, rfl⟩
    obtain ⟨t, member⟩ := List.exists_mem_of_length_pos (Nat.lt_of_lt_of_le Nat.two_pos several)
    obtain ⟨inside, result⟩ := List.mem_filter.1 member
    exact ⟨name, ⟨NameSet.mem_ofList.2 (List.mem_map.2 ⟨t, inside, beq_iff_eq.1 result⟩), several⟩,
      rfl⟩

theorem head?_producersOf (name : String) : (p.producersOf name).head? = p.producer? name :=
  List.head?_filter

theorem declaration_eq_input_iff {q : Parameter} {name title : String} :
    declaration p q = some (.inputProduced name title)
      ↔ ((p.producersOf name).head?.map (·.title) = some title ∧ q.isInput = true)
        ∧ q.name = name := by
  unfold declaration
  constructor
  · intro found
    split at found
    · rename_i t input produced
      cases found
      rw [head?_producersOf, produced]
      exact ⟨⟨rfl, input⟩, rfl⟩
    · cases found
    · cases found
    · split at found <;> cases found
  · rintro ⟨⟨first, input⟩, rfl⟩
    rw [head?_producersOf] at first
    obtain ⟨t, produced, rfl⟩ := Option.map_eq_some_iff.1 first
    rw [input, produced]

theorem declaration_eq_output_iff {q : Parameter} {name : String} :
    declaration p q = some (.outputNotProduced name)
      ↔ (p.producersOf name = [] ∧ (!q.isInput && q.isOutput) = true) ∧ q.name = name := by
  rw [← List.head?_eq_none_iff, head?_producersOf]
  unfold declaration
  by_cases same : q.name = name
  · subst same
    cases q.isInput <;> cases q.isOutput <;> cases p.producer? q.name <;> simp
  · cases q.isInput <;> cases q.isOutput <;> cases p.producer? q.name <;> simp [same]

theorem declaration_eq_unresolved_iff {q : Parameter} {name : String} :
    declaration p q = some (.unresolved name)
      ↔ (p.producersOf name = [] ∧ (!q.isInput && !q.isOutput) = true) ∧ q.name = name := by
  rw [← List.head?_eq_none_iff, head?_producersOf]
  unfold declaration
  by_cases same : q.name = name
  · subst same
    cases q.isInput <;> cases q.isOutput <;> cases p.producer? q.name <;> simp
  · cases q.isInput <;> cases q.isOutput <;> cases p.producer? q.name <;> simp [same]

/-- Several producers are not told of a declaration. -/
theorem declaration_ne_severalProducers {q : Parameter} {name : String} {titles : List String} :
    declaration p q ≠ some (.severalProducers name titles) := by
  intro told
  unfold declaration at told
  split at told
  · cases told
  · cases told
  · cases told
  · split at told <;> cases told

/-- A violation that is told of the declarations of a parameter that pass a test. -/
theorem count_declaration {v : Violation} {name : String} {condition : Prop} [Decidable condition]
    {test : Parameter → Bool}
    (told : ∀ q, declaration p q = some v ↔ (condition ∧ test q = true) ∧ q.name = name) :
    (p.parameters.filterMap (declaration p)).count v
      = if condition then (p.declarations name).countP test else 0 := by
  rw [List.count_filterMap]
  by_cases holds : condition
  · rw [if_pos holds, Pipeline.declarations, List.countP_filter]
    refine List.countP_congr fun q _ => ?_
    simp [told, holds]
  · rw [if_neg holds, List.countP_eq_zero]
    intro q _
    simp [told, holds]

theorem count_producers (v : Violation) :
    (producers p).count v = match v with
      | .severalProducers name titles =>
          if 2 ≤ (p.producersOf name).length ∧ titles = (p.producersOf name).map (·.title) then 1
          else 0
      | .inputProduced name title =>
          if (p.producersOf name).head?.map (·.title) = some title then
            (p.declarations name).countP (·.isInput)
          else 0
      | .outputNotProduced name =>
          if p.producersOf name = [] then
            (p.declarations name).countP fun q => !q.isInput && q.isOutput
          else 0
      | .unresolved name =>
          if p.producersOf name = [] then
            (p.declarations name).countP fun q => !q.isInput && !q.isOutput
          else 0
      | _ => 0 := by
  have several : ∀ v : Violation, v.code ≠ "E009" → (severalProducers p).count v = 0 :=
    fun v other => count_map_other _ v fun _ same => other (by rw [← same]; rfl)
  rw [producers, List.count_append]
  cases v with
  | severalProducers name titles =>
      have other : .severalProducers name titles ∉ p.parameters.filterMap (declaration p) := by
        intro member
        obtain ⟨q, -, told⟩ := List.mem_filterMap.1 member
        exact declaration_ne_severalProducers told
      rw [List.count_eq_zero_of_not_mem other, nodup_severalProducers.count]
      simp only [mem_severalProducers_iff]
      rfl
  | inputProduced name title =>
      rw [several (.inputProduced name title) (by simp [Violation.code]), Nat.zero_add]
      exact count_declaration fun _ => declaration_eq_input_iff
  | outputNotProduced name =>
      rw [several (.outputNotProduced name) (by simp [Violation.code]), Nat.zero_add]
      exact count_declaration fun _ => declaration_eq_output_iff
  | unresolved name =>
      rw [several (.unresolved name) (by simp [Violation.code]), Nat.zero_add]
      exact count_declaration fun _ => declaration_eq_unresolved_iff
  | _ =>
      rw [← List.count_append]
      refine List.count_eq_zero_of_not_mem fun member => ?_
      have codes := Grounded.code_producers member
      simp [Violation.code] at codes

/-! ## The whole check -/

/-- Whether a violation tells of a cycle. -/
def isCycle : Violation → Bool
  | .cycle _ => true
  | _ => false

/-- **The check finds each violation but cycles as often as it is there.** -/
theorem count_violations (p : Pipeline) (v : Violation) :
    ((violations p).filter (!isCycle ·)).count v = census p v := by
  cases about : isCycle v with
  | true =>
      have absent : v ∉ (violations p).filter (!isCycle ·) := by simp [about]
      rw [List.count_eq_zero_of_not_mem absent]
      cases v with
      | cycle parameters => rfl
      | _ => cases about
  | false =>
      have noCycle : (cycles p).count v = 0 := by
        refine List.count_eq_zero_of_not_mem fun member => ?_
        obtain ⟨cycle, -, rfl⟩ := List.mem_map.1 member
        cases about
      rw [List.count_filter (by simp [about]), violations, List.count_append, List.count_append,
        List.count_append, List.count_append, noCycle, count_head, count_parameters,
        count_templates, count_producers]
      cases v with
      | cycle parameters => cases about
      | _ => simp only [census, Nat.add_zero, Nat.zero_add]

end Validation

end PromptPipeline
