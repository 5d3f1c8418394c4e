/-
# Proofs.Edit.Step -- what a command can do to a pipeline and to a template

`HeadStep` and `TemplateStep` have one constructor for each way in which a command
succeeds, with all that it needs and all that it changes.  The edits of the grammar
make exactly these steps (`applyToHead_ok_iff`, `applyToTemplate_ok_iff`); nothing
else about them is unfolded later.
-/
import PromptPipeline.Proofs.Edit.Run
import PromptPipeline.Proofs.Grammar.Standard
import Mathlib.Logic.Basic

namespace PromptPipeline

set_option autoImplicit false

open Directive

/-! ## Heads -/

/-- A command succeeds in a head. -/
inductive HeadStep : Command → Pipeline → Pipeline → Prop
  | url (url : String) (p : Pipeline) : HeadStep (.url url) p { p with url := p.url.or (some url) }
  | version (version : String) (p : Pipeline) :
      HeadStep (.version version) p { p with version := p.version.or (some version) }
  | parameter {name : String} (description : Option String) (isInput isOutput : Bool)
      {p : Pipeline} (free : ∀ q ∈ p.parameters, q.name ≠ name) :
      HeadStep (.parameter name description isInput isOutput) p
        { p with parameters := p.parameters ++ [⟨name, description, isInput, isOutput⟩] }
  | modelVariant {value : String} {variant : ModelVariant} (p : Pipeline)
      (known : ModelVariant.ofKeyword? value = some variant) :
      HeadStep (.model .variant value) p
        { p with
          defaults := some { p.defaults.getD {} with
            variant := (p.defaults.getD {}).variant.or (some variant) } }
  | modelName (value : String) (p : Pipeline) :
      HeadStep (.model .name value) p
        { p with
          defaults := some { p.defaults.getD {} with
            name := (p.defaults.getD {}).name.or (some value) } }
  | persona (name : String) (description : Option String) (p : Pipeline) :
      HeadStep (.persona name description) p
        { p with personas := Persona.register name (description.getD "") p.personas }
  | knowledge {source : String} {p p' : Pipeline}
      (registered : Knowledge.register source p = .ok p') :
      HeadStep (.knowledge source) p p'

theorem parameter?_isSome_iff {p : Pipeline} {name : String} :
    (p.parameter? name).isSome = true ↔ ∃ q ∈ p.parameters, q.name = name := by
  simp [Pipeline.parameter?]

theorem value_onHead_url (url : String) (p : Pipeline) :
    (Url.onHead (.url url) p).value = .ok { p with url := p.url.or (some url) } := by
  rcases p with ⟨existing, _, _, _, _, _, _, _, _⟩
  cases existing <;> rfl

theorem value_onHead_version (version : String) (p : Pipeline) :
    (Version.onHead (.version version) p).value
      = .ok { p with version := p.version.or (some version) } := by
  rcases p with ⟨_, _, existing, _, _, _, _, _, _⟩
  cases existing <;> rfl

theorem value_onHead_modelVariant {value : String} {variant : ModelVariant} (p : Pipeline)
    (known : ModelVariant.ofKeyword? value = some variant) :
    (Model.onHead (.model .variant value) p).value
      = .ok { p with
          defaults := some { p.defaults.getD {} with
            variant := (p.defaults.getD {}).variant.or (some variant) } } := by
  simp only [Model.onHead, Model.demand, known]
  generalize p.defaults.getD {} = r
  rcases r with ⟨_ | existing, name⟩
  · rfl
  · by_cases same : existing = variant
    · simp [same]
    · simp [same]

theorem value_onHead_modelName (value : String) (p : Pipeline) :
    (Model.onHead (.model .name value) p).value
      = .ok { p with
          defaults := some { p.defaults.getD {} with
            name := (p.defaults.getD {}).name.or (some value) } } := by
  simp only [Model.onHead, Model.demand]
  generalize p.defaults.getD {} = r
  rcases r with ⟨variant, _ | existing⟩
  · rfl
  · by_cases same : existing = value
    · simp [same]
    · simp [same]

theorem parameter_onHead_ok_iff {name : String} {description : Option String}
    {isInput isOutput : Bool} {p p' : Pipeline} :
    (Parameter.onHead (.parameter name description isInput isOutput) p).value = .ok p'
      ↔ HeadStep (.parameter name description isInput isOutput) p p' := by
  simp only [Parameter.onHead]
  split
  · rename_i found
    obtain ⟨q, hq, same⟩ := parameter?_isSome_iff.1 found
    refine Except.error_iff_of_none fun _ step => ?_
    cases step with
    | parameter _ _ _ free => exact absurd same (free q hq)
  · rename_i missing
    rw [parameter?_isSome_iff] at missing
    have free : ∀ q ∈ p.parameters, q.name ≠ name := fun q hq same => missing ⟨q, hq, same⟩
    refine Except.ok_iff_of_only (.parameter description isInput isOutput free) ?_
    rintro _ ⟨⟩
    rfl

theorem model_onHead_ok_iff {key : ModelKey} {value : String} {p p' : Pipeline} :
    (Model.onHead (.model key value) p).value = .ok p' ↔ HeadStep (.model key value) p p' := by
  cases key with
  | variant =>
      cases known : ModelVariant.ofKeyword? value with
      | none =>
          constructor
          · intro applied
            simp [Model.onHead, Model.demand, known, refuse] at applied
          · intro step
            cases step with
            | modelVariant _ found =>
                rw [known] at found
                cases found
      | some variant =>
          rw [value_onHead_modelVariant p known]
          refine Except.ok_iff_of_only (.modelVariant p known) fun _ step => ?_
          cases step with
          | modelVariant _ found =>
              rw [known] at found
              cases found
              rfl
  | name =>
      rw [value_onHead_modelName]
      refine Except.ok_iff_of_only (.modelName value p) ?_
      rintro _ ⟨⟩
      rfl

theorem knowledge_onHead_ok_iff {source : String} {p p' : Pipeline} :
    (Knowledge.onHead (.knowledge source) p).value = .ok p'
      ↔ HeadStep (.knowledge source) p p' := by
  have registers : (Knowledge.onHead (.knowledge source) p).value = .ok p'
      ↔ Knowledge.register source p = .ok p' := by
    simp only [Knowledge.onHead]
    cases Knowledge.register source p with
    | ok registered => simp
    | error clash => simp [refuse]
  rw [registers]
  exact ⟨.knowledge, fun | .knowledge registered => registered⟩

/-- **What a command does to a head.** -/
theorem applyToHead_ok_iff {c : Command} {p p' : Pipeline} :
    (Grammar.standard.applyToHead c p).value = .ok p' ↔ HeadStep c p p' := by
  cases c with
  | url url =>
      rw [Grammar.applyToHead_standard rfl, value_onHead_url]
      refine Except.ok_iff_of_only (.url url p) ?_
      rintro _ ⟨⟩
      rfl
  | version version =>
      rw [Grammar.applyToHead_standard rfl, value_onHead_version]
      refine Except.ok_iff_of_only (.version version p) ?_
      rintro _ ⟨⟩
      rfl
  | parameter name description isInput isOutput =>
      rw [Grammar.applyToHead_standard rfl]
      exact parameter_onHead_ok_iff
  | model key value =>
      rw [Grammar.applyToHead_standard rfl]
      exact model_onHead_ok_iff
  | persona name description =>
      rw [Grammar.applyToHead_standard rfl]
      refine Except.ok_iff_of_only (.persona name description p) ?_
      rintro _ ⟨⟩
      rfl
  | knowledge source =>
      rw [Grammar.applyToHead_standard rfl]
      exact knowledge_onHead_ok_iff
  | execute | expectAmount | expectFormat | postprocess | joker | iterate =>
      constructor
      · intro applied
        exact absurd applied (Grammar.applyToHead_standard_none rfl)
      · intro step
        cases step

/-- A command makes at most one step from a pipeline. -/
theorem HeadStep.unique {c : Command} {p q q' : Pipeline} (step : HeadStep c p q)
    (step' : HeadStep c p q') : q = q' := by
  have applied := applyToHead_ok_iff.2 step
  rw [applyToHead_ok_iff.2 step'] at applied
  exact (Except.ok.inj applied).symm

/-! ## Templates -/

/-- A command succeeds in a template. -/
inductive TemplateStep : Command → Draft → Draft → Prop
  | parameter {name : String} {description : Option String} {isInput isOutput : Bool} {d : Draft}
      {p : Pipeline}
      (declared : HeadStep (.parameter name description isInput isOutput) d.pipeline p) :
      TemplateStep (.parameter name description isInput isOutput) d { d with pipeline := p }
  | execute {execution : Execution} {d : Draft}
      (agrees : d.template.execution = .promptTemplate ∨ d.template.execution = execution) :
      TemplateStep (.execute execution) d { d with template.execution := execution }
  | modelVariant {value : String} {variant : ModelVariant} {d : Draft}
      (known : ModelVariant.ofKeyword? value = some variant)
      (agrees : ∀ existing, (d.template.requirements.getD {}).variant = some existing →
        existing = variant) :
      TemplateStep (.model .variant value) d
        { d with
          template.requirements :=
            some { d.template.requirements.getD {} with variant := some variant } }
  | modelName {value : String} {d : Draft}
      (agrees : ∀ existing, (d.template.requirements.getD {}).name = some existing →
        existing = value) :
      TemplateStep (.model .name value) d
        { d with
          template.requirements :=
            some { d.template.requirements.getD {} with name := some value } }
  | persona {name : String} (description : Option String) {d : Draft}
      (agrees : ∀ existing, d.template.persona = some existing → existing = name) :
      TemplateStep (.persona name description) d
        { d with
          template.persona := some name
          pipeline.personas :=
            Persona.register name (description.getD "") d.pipeline.personas }
  | knowledge {source : String} {d : Draft} {p : Pipeline}
      (registered : Knowledge.register source d.pipeline = .ok p) :
      TemplateStep (.knowledge source) d
        { template := { d.template with
            knowledge :=
              if d.template.knowledge.contains (Knowledge.sourceName source) then
                d.template.knowledge
              else d.template.knowledge ++ [Knowledge.sourceName source] }
          pipeline := p }
  | expectAmount {sign : BoundSign} {unit : AmountUnit} {amount : UInt32} {d : Draft}
      {bounds : Bounds}
      (restricted : Expect.restrict ((d.template.expectations.get unit).getD {}) sign unit amount
        = .ok bounds) :
      TemplateStep (.expectAmount sign unit amount) d
        { d with template.expectations := d.template.expectations.set unit bounds }
  | expectFormat {format : ResultFormat} {d : Draft}
      (agrees : ∀ existing, d.template.format = some existing → existing = format) :
      TemplateStep (.expectFormat format) d { d with template.format := some format }
  | postprocess (function : String) (d : Draft) :
      TemplateStep (.postprocess function) d
        { d with template.postprocessing := d.template.postprocessing ++ [function] }
  | joker (name : String) (d : Draft) :
      TemplateStep (.joker name) d
        { d with
          template.jokers :=
            if d.template.jokers.contains name then d.template.jokers
            else d.template.jokers ++ [name] }

theorem execute_onTemplate_ok_iff {execution : Execution} {d d' : Draft} :
    (Execute.onTemplate (.execute execution) d).value = .ok d'
      ↔ TemplateStep (.execute execution) d d' := by
  simp only [Execute.onTemplate]
  split
  · rename_i differs
    refine Except.error_iff_of_none fun _ step => ?_
    cases step with
    | execute agrees => exact absurd agrees (not_or.2 differs)
  · rename_i same
    have agrees : d.template.execution = .promptTemplate ∨ d.template.execution = execution :=
      Decidable.byContradiction fun differs => same (not_or.1 differs)
    refine Except.ok_iff_of_only (.execute agrees) ?_
    rintro _ ⟨⟩
    rfl

/-- A variant is demanded of requirements that have no other one. -/
theorem demand_variant_met_iff {r r' : ModelRequirements} {value : String}
    {variant : ModelVariant} (known : ModelVariant.ofKeyword? value = some variant) :
    Model.demand r .variant value = .met r'
      ↔ (∀ existing, r.variant = some existing → existing = variant)
        ∧ { r with variant := some variant } = r' := by
  rcases r with ⟨_ | existing, name⟩
  · simp [Model.demand, known]
  · simp only [Model.demand, known]
    split
    · rename_i same
      subst same
      simp
    · rename_i differs
      simp [differs]

/-- A name is demanded of requirements that have no other one. -/
theorem demand_name_met_iff {r r' : ModelRequirements} {value : String} :
    Model.demand r .name value = .met r'
      ↔ (∀ existing, r.name = some existing → existing = value)
        ∧ { r with name := some value } = r' := by
  rcases r with ⟨variant, _ | existing⟩
  · simp [Model.demand]
  · simp only [Model.demand]
    split
    · rename_i same
      subst same
      simp
    · rename_i differs
      simp [differs]

theorem model_onTemplate_met_iff {key : ModelKey} {value : String} {d d' : Draft} :
    (Model.onTemplate (.model key value) d).value = .ok d'
      ↔ ∃ r, Model.demand (d.template.requirements.getD {}) key value = .met r
        ∧ { d with template.requirements := some r } = d' := by
  simp only [Model.onTemplate]
  cases Model.demand (d.template.requirements.getD {}) key value with
  | met r => simp
  | taken existing => simp [refuse]
  | unknown => simp [refuse]

theorem model_onTemplate_ok_iff {key : ModelKey} {value : String} {d d' : Draft} :
    (Model.onTemplate (.model key value) d).value = .ok d'
      ↔ TemplateStep (.model key value) d d' := by
  rw [model_onTemplate_met_iff]
  constructor
  · rintro ⟨r, met, rfl⟩
    cases key with
    | variant =>
        cases known : ModelVariant.ofKeyword? value with
        | none => simp [Model.demand, known] at met
        | some variant =>
            obtain ⟨agrees, rfl⟩ := (demand_variant_met_iff known).1 met
            exact .modelVariant known agrees
    | name =>
        obtain ⟨agrees, rfl⟩ := demand_name_met_iff.1 met
        exact .modelName agrees
  · intro step
    cases step with
    | modelVariant known agrees => exact ⟨_, (demand_variant_met_iff known).2 ⟨agrees, rfl⟩, rfl⟩
    | modelName agrees => exact ⟨_, demand_name_met_iff.2 ⟨agrees, rfl⟩, rfl⟩

theorem persona_onTemplate_ok_iff {name : String} {description : Option String} {d d' : Draft} :
    (Persona.onTemplate (.persona name description) d).value = .ok d'
      ↔ TemplateStep (.persona name description) d d' := by
  have enters : ∀ agrees : (∀ existing, d.template.persona = some existing → existing = name),
      (Persona.onTemplate.enter name description d).value = .ok d'
        ↔ TemplateStep (.persona name description) d d' := by
    intro agrees
    refine Except.ok_iff_of_only (.persona description agrees) ?_
    rintro _ ⟨⟩
    rfl
  simp only [Persona.onTemplate]
  split
  · rename_i existing spoken
    split
    · rename_i same
      exact enters fun other found => by
        rw [spoken] at found
        rw [← same, Option.some.inj found]
    · rename_i differs
      refine Except.error_iff_of_none fun _ step => ?_
      cases step with
      | persona _ agrees => exact absurd (agrees existing spoken) differs
  · rename_i silent
    exact enters fun other found => by
      rw [silent] at found
      cases found

theorem knowledge_onTemplate_ok_iff {source : String} {d d' : Draft} :
    (Knowledge.onTemplate (.knowledge source) d).value = .ok d'
      ↔ TemplateStep (.knowledge source) d d' := by
  have registers : (Knowledge.onTemplate (.knowledge source) d).value = .ok d'
      ↔ ∃ p, Knowledge.register source d.pipeline = .ok p
        ∧ ⟨{ d.template with
            knowledge :=
              if d.template.knowledge.contains (Knowledge.sourceName source) then
                d.template.knowledge
              else d.template.knowledge ++ [Knowledge.sourceName source] }, p⟩ = d' := by
    simp only [Knowledge.onTemplate]
    cases Knowledge.register source d.pipeline with
    | ok registered => simp
    | error clash => simp [refuse]
  rw [registers]
  constructor
  · rintro ⟨p, registered, rfl⟩
    exact .knowledge registered
  · intro step
    cases step with
    | knowledge registered => exact ⟨_, registered, rfl⟩

theorem expectAmount_onTemplate_ok_iff {sign : BoundSign} {unit : AmountUnit} {amount : UInt32}
    {d d' : Draft} :
    (Expect.onTemplate (.expectAmount sign unit amount) d).value = .ok d'
      ↔ TemplateStep (.expectAmount sign unit amount) d d' := by
  have restricts : (Expect.onTemplate (.expectAmount sign unit amount) d).value = .ok d'
      ↔ ∃ bounds, Expect.restrict ((d.template.expectations.get unit).getD {}) sign unit amount
          = .ok bounds
        ∧ { d with template.expectations := d.template.expectations.set unit bounds } = d' := by
    simp only [Expect.onTemplate]
    cases Expect.restrict ((d.template.expectations.get unit).getD {}) sign unit amount with
    | ok bounds => simp
    | error clash => simp [refuse]
  rw [restricts]
  constructor
  · rintro ⟨bounds, restricted, rfl⟩
    exact .expectAmount restricted
  · intro step
    cases step with
    | expectAmount restricted => exact ⟨_, restricted, rfl⟩

/-- A format is set where there is no other one. -/
theorem setFormat_ok_iff {format new : ResultFormat} {old : Option ResultFormat} :
    Expect.setFormat format old = .ok new
      ↔ (∀ existing, old = some existing → existing = format) ∧ format = new := by
  cases old with
  | none =>
      rw [Expect.setFormat, Except.ok.injEq, and_iff_right]
      rintro _ ⟨⟩
  | some existing =>
      rw [Expect.setFormat]
      split
      · rename_i same
        rw [Except.ok.injEq, and_iff_right]
        rintro _ ⟨⟩
        exact same
      · rename_i differs
        exact iff_of_false (fun set => nomatch set) fun both => differs (both.1 existing rfl)

theorem expectFormat_onTemplate_ok_iff {format : ResultFormat} {d d' : Draft} :
    (Expect.onTemplate (.expectFormat format) d).value = .ok d'
      ↔ TemplateStep (.expectFormat format) d d' := by
  have sets : (Expect.onTemplate (.expectFormat format) d).value = .ok d'
      ↔ ∃ new, Expect.setFormat format d.template.format = .ok new
        ∧ { d with template.format := some new } = d' := by
    simp only [Expect.onTemplate]
    cases Expect.setFormat format d.template.format with
    | ok new =>
        constructor
        · exact fun set => ⟨new, rfl, Except.ok.inj set⟩
        · rintro ⟨_, ⟨⟩, set⟩
          exact congrArg Except.ok set
    | error clash => simp [refuse]
  rw [sets]
  constructor
  · rintro ⟨new, set, rfl⟩
    obtain ⟨agrees, rfl⟩ := setFormat_ok_iff.1 set
    exact .expectFormat agrees
  · intro step
    cases step with
    | expectFormat agrees => exact ⟨_, setFormat_ok_iff.2 ⟨agrees, rfl⟩, rfl⟩

theorem joker_onTemplate_ok_iff {name : String} {d d' : Draft} :
    (Joker.onTemplate (.joker name) d).value = .ok d' ↔ TemplateStep (.joker name) d d' := by
  have does : (Joker.onTemplate (.joker name) d).value
      = .ok { d with
          template.jokers :=
            if d.template.jokers.contains name then d.template.jokers
            else d.template.jokers ++ [name] } := by
    simp only [Joker.onTemplate]
    split <;> rfl
  rw [does]
  refine Except.ok_iff_of_only (.joker name d) ?_
  rintro _ ⟨⟩
  rfl

/-- An edit of the pipeline succeeds in a draft exactly if it does there. -/
theorem onPipeline_ok_iff {edit : Edit Pipeline} {d d' : Draft} :
    (Edit.onPipeline edit d).value = .ok d'
      ↔ ∃ p, (edit d.pipeline).value = .ok p ∧ { d with pipeline := p } = d' := by
  simp only [Edit.onPipeline]
  cases (edit d.pipeline).value with
  | ok p => simp
  | error refused => simp

theorem parameter_onTemplate_ok_iff {name : String} {description : Option String}
    {isInput isOutput : Bool} {d d' : Draft} :
    (Parameter.onTemplate (.parameter name description isInput isOutput) d).value = .ok d'
      ↔ TemplateStep (.parameter name description isInput isOutput) d d' := by
  rw [Parameter.onTemplate, onPipeline_ok_iff]
  constructor
  · rintro ⟨p, declared, rfl⟩
    exact .parameter (parameter_onHead_ok_iff.1 declared)
  · intro step
    cases step with
    | parameter declared => exact ⟨_, parameter_onHead_ok_iff.2 declared, rfl⟩

/-- **What a command does to a template.** -/
theorem applyToTemplate_ok_iff {c : Command} {d d' : Draft} :
    (Grammar.standard.applyToTemplate c d).value = .ok d' ↔ TemplateStep c d d' := by
  cases c with
  | parameter name description isInput isOutput =>
      rw [Grammar.applyToTemplate_standard rfl]
      exact parameter_onTemplate_ok_iff
  | execute execution =>
      rw [Grammar.applyToTemplate_standard rfl]
      exact execute_onTemplate_ok_iff
  | model key value =>
      rw [Grammar.applyToTemplate_standard rfl]
      exact model_onTemplate_ok_iff
  | persona name description =>
      rw [Grammar.applyToTemplate_standard rfl]
      exact persona_onTemplate_ok_iff
  | knowledge source =>
      rw [Grammar.applyToTemplate_standard rfl]
      exact knowledge_onTemplate_ok_iff
  | expectAmount sign unit amount =>
      rw [Grammar.applyToTemplate_standard rfl]
      exact expectAmount_onTemplate_ok_iff
  | expectFormat format =>
      rw [Grammar.applyToTemplate_standard rfl]
      exact expectFormat_onTemplate_ok_iff
  | postprocess function =>
      rw [Grammar.applyToTemplate_standard rfl]
      refine Except.ok_iff_of_only (.postprocess function d) ?_
      rintro _ ⟨⟩
      rfl
  | joker name =>
      rw [Grammar.applyToTemplate_standard rfl]
      exact joker_onTemplate_ok_iff
  | iterate format part name =>
      rw [Grammar.applyToTemplate_standard rfl]
      refine Except.error_iff_of_none ?_
      rintro _ ⟨⟩
  | url | version =>
      constructor
      · intro applied
        exact absurd applied (Grammar.applyToTemplate_standard_none rfl)
      · intro step
        cases step

/-! ## Runs -/

/-- Commands that are applied to a head make its steps. -/
theorem foldlM_applyToHead_ok_iff {cs : List Command} {p p' : Pipeline} :
    (cs.foldlM (fun p c => Grammar.standard.applyToHead c p) p).value = .ok p'
      ↔ Steps HeadStep cs p p' :=
  Steps.foldlM_ok_iff fun _ _ _ => applyToHead_ok_iff

/-- Commands that are applied to a template make its steps. -/
theorem foldlM_applyToTemplate_ok_iff {cs : List Command} {d d' : Draft} :
    (cs.foldlM (fun d c => Grammar.standard.applyToTemplate c d) d).value = .ok d'
      ↔ Steps TemplateStep cs d d' :=
  Steps.foldlM_ok_iff fun _ _ _ => applyToTemplate_ok_iff

end PromptPipeline
