/-
# Proofs.Edit.Coherent -- what every successful edit keeps

`Pipeline.Coherent` is the invariant of a pipeline under construction: parameters,
personas and sources have distinct names, descriptions of personas are trimmed,
sources are named by their content, and requirements that are there demand
something.  `Template.Coherent` is that of a template next to the pipeline that it
will join.  Steps keep both, and a pipeline only grows (`Pipeline.Grows`), so a
template stays coherent while other templates are filled.
-/
import PromptPipeline.Proofs.Edit.Bounds
import PromptPipeline.Proofs.Edit.Step
import PromptPipeline.Proofs.Text.Trim
import Mathlib.Data.List.Nodup

namespace PromptPipeline

set_option autoImplicit false

open Directive

/-! ## Pipelines -/

/-- What every edit of a pipeline keeps. -/
structure Pipeline.Coherent (p : Pipeline) : Prop where
  parameters : (p.parameters.map Parameter.name).Nodup
  personas : (p.personas.map Persona.name).Nodup
  trimmed : ∀ q ∈ p.personas, Text.trim q.description = q.description
  unprepared : ∀ q ∈ p.personas, q.requirements = none ∧ q.preparationIds = none
  sources : (p.knowledge.map KnowledgeSource.name).Nodup
  derived : ∀ s ∈ p.knowledge, s.name = Knowledge.sourceName s.content ∧ s.preparationIds = none
  demanding : p.defaults ≠ some {}

/-- A pipeline with more in it. -/
structure Pipeline.Grows (p p' : Pipeline) : Prop where
  parameters : p.parameters <+: p'.parameters
  personas : ∀ q ∈ p.personas, ∃ q' ∈ p'.personas, q'.name = q.name
  sources : p.knowledge <+: p'.knowledge
  templates : p'.templates = p.templates
  title : p'.title = p.title
  description : p'.description = p.description

theorem Pipeline.grows_refl (p : Pipeline) : p.Grows p :=
  ⟨List.prefix_rfl, fun q hq => ⟨q, hq, rfl⟩, List.prefix_rfl, rfl, rfl, rfl⟩

theorem Pipeline.coherent_new (title : String) (description : Option String) :
    Pipeline.Coherent { Pipeline.new title with description } where
  parameters := List.nodup_nil
  personas := List.nodup_nil
  trimmed := fun _ h => nomatch h
  unprepared := fun _ h => nomatch h
  sources := List.nodup_nil
  derived := fun _ h => nomatch h
  demanding := fun h => nomatch h

theorem nodup_map_concat {α β : Type} {f : α → β} {l : List α} {a : α} {x : β}
    (unique : (l.map f).Nodup) (free : ∀ b ∈ l, f b ≠ x) (named : f a = x) :
    ((l ++ [a]).map f).Nodup := by
  rw [List.map_append, List.nodup_append]
  refine ⟨unique, by simp, fun y hy z hz => ?_⟩
  obtain ⟨b, hb, rfl⟩ := List.mem_map.1 hy
  obtain rfl : z = f a := by simpa using hz
  exact named ▸ free b hb

/-! ## Personas -/

namespace Directive.Persona

/-- The first persona of a name has others before it. -/
theorem exists_split {name : String} {l : List PromptPipeline.Persona}
    (known : ∃ q ∈ l, q.name = name) :
    ∃ before q after, l = before ++ q :: after ∧ q.name = name ∧ ∀ r ∈ before, r.name ≠ name := by
  obtain ⟨q, member, named⟩ := known
  have isSome : (l.find? (·.name == name)).isSome = true :=
    List.find?_isSome.2 ⟨q, member, beq_iff_eq.2 named⟩
  obtain ⟨first, found⟩ := Option.isSome_iff_exists.1 isSome
  obtain ⟨same, before, after, split, others⟩ := List.find?_eq_some_iff_append.1 found
  refine ⟨before, first, after, split, beq_iff_eq.1 same, fun r inside => ?_⟩
  simpa using others r inside

/-- **Registering tells the first persona of the name more**, whatever stands around it. -/
theorem register_split {name : String} (description : String)
    {before after : List PromptPipeline.Persona} {q : PromptPipeline.Persona}
    (others : ∀ r ∈ before, r.name ≠ name) (named : q.name = name) :
    register name description (before ++ q :: after)
      = before ++ { q with description := merge q.description description } :: after := by
  induction before with
  | nil => rw [List.nil_append, register, if_pos named, List.nil_append]
  | cons first before ih =>
      obtain ⟨atFirst, atRest⟩ := List.forall_mem_cons.1 others
      rw [List.cons_append, register, if_neg atFirst, ih atRest, List.cons_append]

/-- **A persona that is new is put at the end.** -/
theorem register_of_not_mem {name description : String} {l : List PromptPipeline.Persona}
    (free : ∀ q ∈ l, q.name ≠ name) :
    register name description l
      = l ++ [{ name := name, description := Text.trim description }] := by
  induction l with
  | nil => rfl
  | cons first rest ih =>
      obtain ⟨atFirst, atRest⟩ := List.forall_mem_cons.1 free
      rw [register, if_neg atFirst, ih atRest, List.cons_append]

/-- What is true of a new persona and survives merging is true of all. -/
theorem register_keeps {P : PromptPipeline.Persona → Prop} {name description : String}
    {l : List PromptPipeline.Persona}
    (new : P { name := name, description := Text.trim description })
    (merged : ∀ q, P q → P { q with description := merge q.description description })
    (all : ∀ q ∈ l, P q) : ∀ q ∈ register name description l, P q := by
  by_cases known : ∃ q ∈ l, q.name = name
  · obtain ⟨before, q, after, rfl, named, others⟩ := exists_split known
    rw [List.forall_mem_append, List.forall_mem_cons] at all
    rw [register_split description others named, List.forall_mem_append, List.forall_mem_cons]
    exact ⟨all.1, merged q all.2.1, all.2.2⟩
  · rw [register_of_not_mem fun q member named => known ⟨q, member, named⟩]
    exact List.forall_mem_append.2 ⟨all, List.forall_mem_singleton.2 new⟩

theorem map_name_register_of_mem {name description : String} {l : List PromptPipeline.Persona}
    (known : ∃ q ∈ l, q.name = name) :
    (register name description l).map PromptPipeline.Persona.name
      = l.map PromptPipeline.Persona.name := by
  obtain ⟨before, q, after, rfl, named, others⟩ := exists_split known
  rw [register_split description others named]
  simp

theorem mem_register_name (name description : String) (l : List PromptPipeline.Persona) :
    ∃ q ∈ register name description l, q.name = name := by
  by_cases known : ∃ q ∈ l, q.name = name
  · rw [← List.mem_map, map_name_register_of_mem known, List.mem_map]
    exact known
  · rw [register_of_not_mem fun q member named => known ⟨q, member, named⟩]
    exact ⟨_, List.mem_append_right _ (List.mem_singleton_self _), rfl⟩

theorem nodup_register {name description : String} {l : List PromptPipeline.Persona}
    (unique : (l.map PromptPipeline.Persona.name).Nodup) :
    ((register name description l).map PromptPipeline.Persona.name).Nodup := by
  by_cases known : ∃ q ∈ l, q.name = name
  · rw [map_name_register_of_mem known]
    exact unique
  · have free : ∀ q ∈ l, q.name ≠ name := fun q hq named => known ⟨q, hq, named⟩
    rw [register_of_not_mem free]
    exact nodup_map_concat unique free (by dsimp only)

theorem register_grows {name description : String} {l : List PromptPipeline.Persona}
    {q : PromptPipeline.Persona} (hq : q ∈ l) :
    ∃ q' ∈ register name description l, q'.name = q.name := by
  have kept : q.name ∈ (register name description l).map PromptPipeline.Persona.name := by
    by_cases known : ∃ q ∈ l, q.name = name
    · rw [map_name_register_of_mem known]
      exact List.mem_map_of_mem hq
    · rw [register_of_not_mem fun q hq named => known ⟨q, hq, named⟩, List.map_append]
      exact List.mem_append_left _ (List.mem_map_of_mem hq)
  exact List.mem_map.1 kept

/-- A merged description is trimmed if the one before was. -/
theorem trim_merge {existing : String} (addition : String)
    (trimmed : Text.trim existing = existing) :
    Text.trim (merge existing addition) = merge existing addition := by
  simp only [merge]
  split
  · exact trimmed
  · rename_i more
    split
    · exact Text.trim_trim addition
    · rename_i full
      have more' : (Text.trim addition).isEmpty = false := by
        cases h : (Text.trim addition).isEmpty with
        | false => rfl
        | true => simp [h] at more
      have full' : existing.toList ≠ [] := fun h => full (by simpa using h)
      have added : (Text.trim addition).toList ≠ [] := fun h => by
        have : (Text.trim addition).isEmpty = true := by simpa using h
        rw [more'] at this
        cases this
      rw [Text.trim_eq_self_iff] at trimmed ⊢
      have trimmed' := Text.trim_eq_self_iff.1 (Text.trim_trim addition)
      rw [String.toList_append, String.toList_append]
      exact trimmed.append trimmed' _ full' added

theorem register_trimmed {name description : String} {l : List PromptPipeline.Persona}
    (trimmed : ∀ q ∈ l, Text.trim q.description = q.description) :
    ∀ q ∈ register name description l, Text.trim q.description = q.description := by
  refine register_keeps (P := fun q => Text.trim q.description = q.description) ?_ ?_ trimmed
  · simp only [Text.trim_trim]
  · intro q kept
    simp only [trim_merge description kept]

theorem register_unprepared {name description : String} {l : List PromptPipeline.Persona}
    (unprepared : ∀ q ∈ l, q.requirements = none ∧ q.preparationIds = none) :
    ∀ q ∈ register name description l, q.requirements = none ∧ q.preparationIds = none :=
  register_keeps (P := fun q => q.requirements = none ∧ q.preparationIds = none) ⟨rfl, rfl⟩
    (fun _ kept => kept) unprepared

/-- Nothing is added by an empty description. -/
theorem merge_empty (existing : String) : merge existing "" = existing := by
  simp [merge]

theorem register_empty {name : String} {l : List PromptPipeline.Persona}
    (known : ∃ q ∈ l, q.name = name) : register name "" l = l := by
  obtain ⟨before, q, after, rfl, named, others⟩ := exists_split known
  rw [register_split "" others named, merge_empty]

end Directive.Persona

/-! ## Sources -/

namespace Directive.Knowledge

/-- Registering a source finds it or puts it at the end. -/
theorem register_ok_iff {source : String} {p p' : Pipeline} :
    register source p = .ok p'
      ↔ (∃ s, p.source? (sourceName source) = some s ∧ s.content = source ∧ p = p')
        ∨ p.source? (sourceName source) = none
          ∧ { p with
              knowledge :=
                p.knowledge ++ [{ name := sourceName source, content := source }] } = p' := by
  unfold register
  cases p.source? (sourceName source) with
  | none => simp
  | some existing =>
      simp only [Option.some.injEq, reduceCtorEq, false_and, or_false, exists_eq_left']
      by_cases same : existing.content = source
      · simp [same]
      · simp [same]

theorem source?_eq_none_iff {p : Pipeline} {name : String} :
    p.source? name = none ↔ ∀ s ∈ p.knowledge, s.name ≠ name := by
  simp [Pipeline.source?]

theorem mem_of_source?_eq_some {p : Pipeline} {name : String} {s : KnowledgeSource}
    (found : p.source? name = some s) : s ∈ p.knowledge ∧ s.name = name := by
  unfold Pipeline.source? at found
  exact ⟨List.mem_of_find?_eq_some found, by simpa using List.find?_some found⟩

theorem source?_of_mem {p : Pipeline} (unique : (p.knowledge.map KnowledgeSource.name).Nodup)
    {s : KnowledgeSource} (member : s ∈ p.knowledge) : p.source? s.name = some s := by
  unfold Pipeline.source?
  generalize p.knowledge = l at unique member
  induction l with
  | nil => cases member
  | cons first rest ih =>
      obtain ⟨fresh, restUnique⟩ := List.nodup_cons.1 unique
      rcases List.mem_cons.1 member with rfl | member
      · simp
      · have differs : first.name ≠ s.name := fun same =>
          fresh (same ▸ List.mem_map_of_mem member)
        rw [List.find?_cons_of_neg (by simpa using differs)]
        exact ih restUnique member

/-- A registered source is there. -/
theorem mem_of_register {source : String} {p p' : Pipeline}
    (registered : register source p = .ok p') :
    ∃ s ∈ p'.knowledge, s.name = sourceName source := by
  rcases register_ok_iff.1 registered with ⟨s, found, -, rfl⟩ | ⟨-, rfl⟩
  · obtain ⟨member, named⟩ := mem_of_source?_eq_some found
    exact ⟨s, member, named⟩
  · exact ⟨_, List.mem_append_right _ List.mem_cons_self, rfl⟩

end Directive.Knowledge

theorem Pipeline.Coherent.register {source : String} {p p' : Pipeline} (coherent : p.Coherent)
    (registered : Directive.Knowledge.register source p = .ok p') : p'.Coherent := by
  rcases Directive.Knowledge.register_ok_iff.1 registered with ⟨_, -, -, rfl⟩ | ⟨missing, rfl⟩
  · exact coherent
  · have free := Directive.Knowledge.source?_eq_none_iff.1 missing
    refine { coherent with sources := ?_, derived := ?_ }
    · exact nodup_map_concat coherent.sources free (by dsimp only)
    · refine List.forall_mem_append.2 ⟨coherent.derived, List.forall_mem_singleton.2 ⟨?_, rfl⟩⟩
      dsimp only

/-! ## Steps of a head -/

theorem HeadStep.grows {c : Command} {p p' : Pipeline} (step : HeadStep c p p') : p.Grows p' := by
  cases step with
  | url | version | modelVariant | modelName => exact { p.grows_refl with }
  | parameter => exact { p.grows_refl with parameters := List.prefix_append _ _ }
  | persona =>
      exact { p.grows_refl with personas := fun _ hq => Directive.Persona.register_grows hq }
  | knowledge registered =>
      rcases Directive.Knowledge.register_ok_iff.1 registered with ⟨_, -, -, rfl⟩ | ⟨-, rfl⟩
      · exact p.grows_refl
      · exact { p.grows_refl with sources := List.prefix_append _ _ }

/-- **A command keeps a pipeline coherent.** -/
theorem HeadStep.coherent {c : Command} {p p' : Pipeline} (step : HeadStep c p p')
    (coherent : p.Coherent) : p'.Coherent := by
  cases step with
  | url | version => exact { coherent with }
  | modelVariant _ known =>
      refine { coherent with demanding := fun empty => ?_ }
      have none := congrArg ModelRequirements.variant (Option.some.inj empty)
      simp at none
  | modelName value =>
      refine { coherent with demanding := fun empty => ?_ }
      have none := congrArg ModelRequirements.name (Option.some.inj empty)
      simp at none
  | parameter description isInput isOutput free =>
      exact { coherent with parameters := nodup_map_concat coherent.parameters free rfl }
  | persona name description =>
      refine { coherent with personas := ?_, trimmed := ?_, unprepared := ?_ }
      · exact Directive.Persona.nodup_register coherent.personas
      · exact Directive.Persona.register_trimmed coherent.trimmed
      · exact Directive.Persona.register_unprepared coherent.unprepared
  | @knowledge source _ _ registered =>
      exact coherent.register registered

/-! ## Templates -/

/-- What every edit of a template keeps, next to the pipeline that it will join. -/
structure Template.Coherent (p : Pipeline) (t : Template) : Prop where
  named : t.name = Name.kebab t.title
  unprepared : t.prepared = none
  demanding : t.requirements ≠ some {}
  voiced : ∀ name, t.persona = some name → ∃ q ∈ p.personas, q.name = name
  linked : ∀ name ∈ t.knowledge, ∃ s ∈ p.knowledge, s.name = name
  sources : t.knowledge.Nodup
  jokers : t.jokers.Nodup
  bounded : ∀ unit bounds, t.expectations.get unit = some bounds → bounds.Sound

theorem Template.coherent_new (p : Pipeline) (title content result : String) :
    (Template.new title content result).Coherent p where
  named := rfl
  unprepared := rfl
  demanding := fun h => nomatch h
  voiced := fun _ h => nomatch h
  linked := fun _ h => nomatch h
  sources := List.nodup_nil
  jokers := List.nodup_nil
  bounded := fun unit _ h => by cases unit <;> cases h

/-- A template stays coherent while the pipeline grows. -/
theorem Template.Coherent.grows {p p' : Pipeline} {t : Template} (coherent : t.Coherent p)
    (grows : p.Grows p') : t.Coherent p' :=
  { coherent with
    voiced := fun name spoken => by
      obtain ⟨q, hq, rfl⟩ := coherent.voiced name spoken
      exact grows.personas q hq
    linked := fun name member => by
      obtain ⟨s, hs, named⟩ := coherent.linked name member
      exact ⟨s, grows.sources.subset hs, named⟩ }

/-- What a template is about may change at any time. -/
theorem Template.Coherent.describe {p : Pipeline} {t : Template} (coherent : t.Coherent p)
    (description language : Option String) (dependents : NameSet) :
    Template.Coherent p { t with description, language, dependents } :=
  { coherent with }

theorem nodup_insertLast {α : Type} [BEq α] [LawfulBEq α] {l : List α} (unique : l.Nodup) (a : α) :
    (if l.contains a then l else l ++ [a]).Nodup := by
  split
  · exact unique
  · rename_i fresh
    have free : ∀ b ∈ l, id b ≠ a := by
      rintro b hb rfl
      exact fresh (List.contains_iff_mem.2 hb)
    simpa using nodup_map_concat (f := id) (by simpa using unique) free rfl

theorem mem_insertLast {α : Type} [BEq α] [LawfulBEq α] {l : List α} {a b : α}
    (member : b ∈ if l.contains a then l else l ++ [a]) : b ∈ l ∨ b = a := by
  split at member
  · exact .inl member
  · simpa using member

/-- A command of a template does to the pipeline what a command of the head would do. -/
theorem TemplateStep.pipeline {c : Command} {d d' : Draft} (step : TemplateStep c d d') :
    d'.pipeline = d.pipeline ∨ HeadStep c d.pipeline d'.pipeline := by
  cases step with
  | parameter declared => exact .inr declared
  | persona description => exact .inr (.persona _ description _)
  | knowledge registered => exact .inr (.knowledge registered)
  | execute | modelVariant | modelName | expectAmount | expectFormat | postprocess | joker =>
      exact .inl rfl

theorem TemplateStep.grows {c : Command} {d d' : Draft} (step : TemplateStep c d d') :
    d.pipeline.Grows d'.pipeline := by
  rcases step.pipeline with same | head
  · exact same ▸ d.pipeline.grows_refl
  · exact head.grows

theorem TemplateStep.coherent_pipeline {c : Command} {d d' : Draft} (step : TemplateStep c d d')
    (coherent : d.pipeline.Coherent) : d'.pipeline.Coherent := by
  rcases step.pipeline with same | head
  · exact same ▸ coherent
  · exact head.coherent coherent

/-- **A command keeps a template coherent.** -/
theorem TemplateStep.coherent {c : Command} {d d' : Draft} (step : TemplateStep c d d')
    (coherent : d.template.Coherent d.pipeline) : d'.template.Coherent d'.pipeline := by
  have grown := coherent.grows step.grows
  cases step with
  | parameter => exact grown
  | execute | expectFormat | postprocess => exact { grown with }
  | @modelVariant _ variant =>
      refine { grown with demanding := fun empty => ?_ }
      have none := congrArg ModelRequirements.variant (Option.some.inj empty)
      cases none
  | modelName =>
      refine { grown with demanding := fun empty => ?_ }
      have none := congrArg ModelRequirements.name (Option.some.inj empty)
      cases none
  | @persona name description =>
      refine { grown with voiced := fun spoken same => ?_ }
      obtain rfl : name = spoken := Option.some.inj same
      exact Persona.mem_register_name name _ _
  | @knowledge source _ p registered =>
      refine { grown with linked := fun name member => ?_, sources := ?_ }
      · rcases mem_insertLast member with member | rfl
        · exact grown.linked name member
        · exact Knowledge.mem_of_register registered
      · exact nodup_insertLast coherent.sources _
  | @expectAmount sign unit amount d bounds restricted =>
      refine { grown with bounded := fun other b found => ?_ }
      dsimp only at found
      rw [Expectations.get_set] at found
      split at found
      · obtain rfl : bounds = b := Option.some.inj found
        exact (Expect.restrict_ok_iff.1 restricted).sound
      · exact grown.bounded other b found
  | joker name =>
      refine { grown with jokers := ?_ }
      exact nodup_insertLast coherent.jokers name

end PromptPipeline
