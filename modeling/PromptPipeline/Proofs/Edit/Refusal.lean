/-
# Proofs.Edit.Refusal -- how a command is refused, and what is left then

`HeadRefusal` and `TemplateRefusal` have one constructor for each way in which a command
is refused, with the error and the state that is left.  They are the other half of
`HeadStep` and `TemplateStep`: a command that makes no step is refused like this
(`headRefusal_of_error`, `templateRefusal_of_error`).

A refused command leaves everything as it is, with one exception: requirements come into
being before a variant is looked up, so a variant that there is none leaves requirements
that demand nothing where there were none (`refused_left`).
-/
import PromptPipeline.Proofs.Edit.Coherent
import PromptPipeline.Proofs.Edit.Replay
import PromptPipeline.Proofs.Grammar.Arguments

namespace PromptPipeline

set_option autoImplicit false

open Directive

/-! ## Heads -/

/-- A command is refused in a head. -/
inductive HeadRefusal : Command → Pipeline → Refused Pipeline → Prop
  | parameter {name : String} (description : Option String) (isInput isOutput : Bool)
      {p : Pipeline} (taken : ∃ q ∈ p.parameters, q.name = name) :
      HeadRefusal (.parameter name description isInput isOutput) p
        ⟨.conflict (.parameterTwice name), p⟩
  | variant {value : String} (p : Pipeline) (unknown : ModelVariant.ofKeyword? value = none) :
      HeadRefusal (.model .variant value) p
        ⟨.invalidArguments (.unknownVariant value),
          { p with defaults := some (p.defaults.getD {}) }⟩
  | knowledge {source : String} {p : Pipeline} {clash : Conflict}
      (clashes : Knowledge.register source p = .error clash) :
      HeadRefusal (.knowledge source) p ⟨.conflict clash, p⟩
  | misplaced {c : Command} (p : Pipeline) (noEdit : (Grammar.owner c.kind).onHead = none) :
      HeadRefusal c p
        ⟨.notAllowedHere (Grammar.owner c.kind).name .head (Grammar.standard.lineOf c), p⟩

theorem parameter_onHead_error_iff {name : String} {description : Option String}
    {isInput isOutput : Bool} {p : Pipeline} {r : Refused Pipeline} :
    (Parameter.onHead (.parameter name description isInput isOutput) p).value = .error r
      ↔ (∃ q ∈ p.parameters, q.name = name) ∧ ⟨.conflict (.parameterTwice name), p⟩ = r := by
  rw [← parameter?_isSome_iff]
  simp only [Parameter.onHead]
  split
  · rename_i found
    simp [refuse, found]
  · rename_i missing
    simp [missing]

theorem knowledge_onHead_error_iff {source : String} {p : Pipeline} {r : Refused Pipeline} :
    (Knowledge.onHead (.knowledge source) p).value = .error r
      ↔ ∃ clash, Knowledge.register source p = .error clash ∧ ⟨.conflict clash, p⟩ = r := by
  simp only [Knowledge.onHead]
  cases Knowledge.register source p with
  | ok registered => simp
  | error clash => simp [refuse]

/-- A head refuses a variant that there is none. -/
theorem applyToHead_unknown {value : String} (unknown : ModelVariant.ofKeyword? value = none)
    (p : Pipeline) :
    (Grammar.standard.applyToHead (.model .variant value) p).value
      = .error ⟨.invalidArguments (.unknownVariant value),
        { p with defaults := some (p.defaults.getD {}) }⟩ := by
  rw [Grammar.applyToHead_standard rfl]
  simp only [Model.onHead, Model.demand, unknown]
  rfl

/-- **A command that fails in a head is refused there.** -/
theorem headRefusal_of_error {c : Command} {p : Pipeline} {r : Refused Pipeline}
    (failed : (Grammar.standard.applyToHead c p).value = .error r) : HeadRefusal c p r := by
  cases c with
  | url url =>
      rw [Grammar.applyToHead_standard rfl, value_onHead_url] at failed
      cases failed
  | version version =>
      rw [Grammar.applyToHead_standard rfl, value_onHead_version] at failed
      cases failed
  | parameter name description isInput isOutput =>
      rw [Grammar.applyToHead_standard rfl] at failed
      obtain ⟨taken, rfl⟩ := parameter_onHead_error_iff.1 failed
      exact .parameter description isInput isOutput taken
  | model key value =>
      cases key with
      | variant =>
          cases known : ModelVariant.ofKeyword? value with
          | none =>
              rw [applyToHead_unknown known] at failed
              cases failed
              exact .variant p known
          | some variant =>
              rw [Grammar.applyToHead_standard rfl, value_onHead_modelVariant p known] at failed
              cases failed
      | name =>
          rw [Grammar.applyToHead_standard rfl, value_onHead_modelName] at failed
          cases failed
  | persona name description =>
      rw [Grammar.applyToHead_standard rfl] at failed
      cases failed
  | knowledge source =>
      rw [Grammar.applyToHead_standard rfl] at failed
      obtain ⟨clash, clashes, rfl⟩ := knowledge_onHead_error_iff.1 failed
      exact .knowledge clashes
  | execute | expectAmount | expectFormat | postprocess | joker | iterate =>
      rw [Grammar.applyToHead_standard_eq_refuse rfl] at failed
      cases failed
      exact .misplaced p rfl

/-! ## Templates -/

/-- A command is refused in a template. -/
inductive TemplateRefusal : Command → Draft → Refused Draft → Prop
  | parameter {name : String} (description : Option String) (isInput isOutput : Bool)
      {d : Draft} (taken : ∃ q ∈ d.pipeline.parameters, q.name = name) :
      TemplateRefusal (.parameter name description isInput isOutput) d
        ⟨.conflict (.parameterTwice name), d⟩
  | execute {execution : Execution} {d : Draft} (chosen : d.template.execution ≠ .promptTemplate)
      (differs : d.template.execution ≠ execution) :
      TemplateRefusal (.execute execution) d
        ⟨.conflict (.execution d.template.title d.template.execution execution), d⟩
  | variant {value : String} (d : Draft) (unknown : ModelVariant.ofKeyword? value = none) :
      TemplateRefusal (.model .variant value) d
        ⟨.invalidArguments (.unknownVariant value),
          { d with template.requirements := some (d.template.requirements.getD {}) }⟩
  | requirement {key : ModelKey} {value existing : String} {d : Draft} {r : ModelRequirements}
      (required : d.template.requirements = some r)
      (taken : Model.demand r key value = .taken existing) :
      TemplateRefusal (.model key value) d
        ⟨.conflict (.requirement d.template.title key existing value), d⟩
  | persona {name existing : String} (description : Option String) {d : Draft}
      (speaks : d.template.persona = some existing) (differs : existing ≠ name) :
      TemplateRefusal (.persona name description) d
        ⟨.conflict (.persona d.template.title existing name), d⟩
  | knowledge {source : String} {d : Draft} {clash : Conflict}
      (clashes : Knowledge.register source d.pipeline = .error clash) :
      TemplateRefusal (.knowledge source) d ⟨.conflict clash, d⟩
  | expectAmount {sign : BoundSign} {unit : AmountUnit} {amount : UInt32} {d : Draft}
      {clash : Conflict}
      (clashes : Expect.restrict ((d.template.expectations.get unit).getD {}) sign unit amount
        = .error clash) :
      TemplateRefusal (.expectAmount sign unit amount) d ⟨.conflict clash, d⟩
  | expectFormat {format : ResultFormat} {d : Draft} {clash : Conflict}
      (clashes : Expect.setFormat format d.template.format = .error clash) :
      TemplateRefusal (.expectFormat format) d ⟨.conflict clash, d⟩
  | iterate (format : IterationFormat) (part : IterationCell) (name : String) (d : Draft) :
      TemplateRefusal (.iterate format part name) d
        ⟨.notImplemented Iterate.name "apply to template", d⟩
  | misplaced {c : Command} (d : Draft) (noEdit : (Grammar.owner c.kind).onTemplate = none) :
      TemplateRefusal c d
        ⟨.notAllowedHere (Grammar.owner c.kind).name .template (Grammar.standard.lineOf c), d⟩

/-- Only requirements that demand something can be in the way of another demand. -/
theorem demand_taken {r : ModelRequirements} {key : ModelKey} {value existing : String}
    (taken : Model.demand r key value = .taken existing) : r ≠ {} := by
  rintro rfl
  cases key with
  | variant =>
      cases known : ModelVariant.ofKeyword? value with
      | none => simp [Model.demand, known] at taken
      | some variant => simp [Model.demand, known] at taken
  | name => simp [Model.demand] at taken

/-- A template refuses a variant that there is none. -/
theorem applyToTemplate_unknown {value : String} (unknown : ModelVariant.ofKeyword? value = none)
    (d : Draft) :
    (Grammar.standard.applyToTemplate (.model .variant value) d).value
      = .error ⟨.invalidArguments (.unknownVariant value),
        { d with template.requirements := some (d.template.requirements.getD {}) }⟩ := by
  rw [Grammar.applyToTemplate_standard rfl]
  simp only [Model.onTemplate, Model.demand, unknown]
  rfl

/-- The refusals of a requirement. -/
theorem model_onTemplate_refused {key : ModelKey} {value : String} {d : Draft} {r : Refused Draft}
    (failed : (Model.onTemplate (.model key value) d).value = .error r) :
    TemplateRefusal (.model key value) d r := by
  simp only [Model.onTemplate] at failed
  split at failed
  · cases failed
  · rename_i existing taken
    cases required : d.template.requirements with
    | none =>
        rw [required, Option.getD_none] at taken
        exact absurd rfl (demand_taken taken)
    | some requirements =>
        rw [required, Option.getD_some] at taken
        have same : { d with template.requirements := some requirements } = d := by rw [← required]
        rw [required, Option.getD_some, same] at failed
        cases failed
        exact .requirement required taken
  · rename_i unknown
    cases failed
    cases key with
    | variant =>
        cases known : ModelVariant.ofKeyword? value with
        | none => exact .variant d known
        | some variant =>
            rcases requirements : d.template.requirements.getD {} with ⟨_ | existing, name⟩
            · simp [Model.demand, known, requirements] at unknown
            · rw [requirements, Model.demand, known] at unknown
              dsimp only at unknown
              split at unknown <;> cases unknown
    | name =>
        rcases requirements : d.template.requirements.getD {} with ⟨variant, _ | existing⟩
        · simp [Model.demand, requirements] at unknown
        · rw [requirements, Model.demand] at unknown
          dsimp only at unknown
          split at unknown <;> cases unknown

/-- An edit of the pipeline is refused in a draft exactly if it is refused there. -/
theorem onPipeline_error_iff {edit : Edit Pipeline} {d : Draft} {r : Refused Draft} :
    (Edit.onPipeline edit d).value = .error r
      ↔ ∃ refused, (edit d.pipeline).value = .error refused
        ∧ ⟨refused.error, { d with pipeline := refused.left }⟩ = r := by
  simp only [Edit.onPipeline]
  cases (edit d.pipeline).value with
  | ok p => simp
  | error refused => simp

theorem parameter_onTemplate_refused {name : String} {description : Option String}
    {isInput isOutput : Bool} {d : Draft} {r : Refused Draft}
    (failed : (Parameter.onTemplate (.parameter name description isInput isOutput) d).value
      = .error r) :
    TemplateRefusal (.parameter name description isInput isOutput) d r := by
  obtain ⟨refused, declared, rfl⟩ := onPipeline_error_iff.1 failed
  obtain ⟨taken, rfl⟩ := parameter_onHead_error_iff.1 declared
  exact .parameter description isInput isOutput taken

theorem execute_onTemplate_refused {execution : Execution} {d : Draft} {r : Refused Draft}
    (failed : (Execute.onTemplate (.execute execution) d).value = .error r) :
    TemplateRefusal (.execute execution) d r := by
  simp only [Execute.onTemplate] at failed
  split at failed
  · rename_i differs
    cases failed
    exact .execute differs.1 differs.2
  · cases failed

theorem persona_onTemplate_refused {name : String} {description : Option String} {d : Draft}
    {r : Refused Draft}
    (failed : (Persona.onTemplate (.persona name description) d).value = .error r) :
    TemplateRefusal (.persona name description) d r := by
  simp only [Persona.onTemplate] at failed
  split at failed
  · rename_i existing speaks
    split at failed
    · cases failed
    · rename_i differs
      cases failed
      exact .persona description speaks differs
  · cases failed

theorem knowledge_onTemplate_refused {source : String} {d : Draft} {r : Refused Draft}
    (failed : (Knowledge.onTemplate (.knowledge source) d).value = .error r) :
    TemplateRefusal (.knowledge source) d r := by
  simp only [Knowledge.onTemplate] at failed
  split at failed
  · cases failed
  · rename_i clash clashes
    cases failed
    exact .knowledge clashes

theorem expectAmount_onTemplate_refused {sign : BoundSign} {unit : AmountUnit} {amount : UInt32}
    {d : Draft} {r : Refused Draft}
    (failed : (Expect.onTemplate (.expectAmount sign unit amount) d).value = .error r) :
    TemplateRefusal (.expectAmount sign unit amount) d r := by
  simp only [Expect.onTemplate] at failed
  split at failed
  · cases failed
  · rename_i clash clashes
    cases failed
    exact .expectAmount clashes

theorem expectFormat_onTemplate_refused {format : ResultFormat} {d : Draft} {r : Refused Draft}
    (failed : (Expect.onTemplate (.expectFormat format) d).value = .error r) :
    TemplateRefusal (.expectFormat format) d r := by
  simp only [Expect.onTemplate] at failed
  split at failed
  · cases failed
  · rename_i clash clashes
    cases failed
    exact .expectFormat clashes

/-- No joker is refused. -/
theorem joker_onTemplate_ne_error {name : String} {d : Draft} {r : Refused Draft} :
    (Joker.onTemplate (.joker name) d).value ≠ .error r := by
  intro failed
  simp only [Joker.onTemplate] at failed
  split at failed
  · cases failed
  · cases failed

/-- **A command that fails in a template is refused there.** -/
theorem templateRefusal_of_error {c : Command} {d : Draft} {r : Refused Draft}
    (failed : (Grammar.standard.applyToTemplate c d).value = .error r) : TemplateRefusal c d r := by
  cases c with
  | parameter name description isInput isOutput =>
      rw [Grammar.applyToTemplate_standard rfl] at failed
      exact parameter_onTemplate_refused failed
  | execute execution =>
      rw [Grammar.applyToTemplate_standard rfl] at failed
      exact execute_onTemplate_refused failed
  | model key value =>
      rw [Grammar.applyToTemplate_standard rfl] at failed
      exact model_onTemplate_refused failed
  | persona name description =>
      rw [Grammar.applyToTemplate_standard rfl] at failed
      exact persona_onTemplate_refused failed
  | knowledge source =>
      rw [Grammar.applyToTemplate_standard rfl] at failed
      exact knowledge_onTemplate_refused failed
  | expectAmount sign unit amount =>
      rw [Grammar.applyToTemplate_standard rfl] at failed
      exact expectAmount_onTemplate_refused failed
  | joker name =>
      rw [Grammar.applyToTemplate_standard rfl] at failed
      exact absurd failed joker_onTemplate_ne_error
  | expectFormat format =>
      rw [Grammar.applyToTemplate_standard rfl] at failed
      exact expectFormat_onTemplate_refused failed
  | postprocess function =>
      rw [Grammar.applyToTemplate_standard rfl] at failed
      cases failed
  | iterate format part name =>
      rw [Grammar.applyToTemplate_standard rfl] at failed
      cases failed
      exact .iterate format part name d
  | url | version =>
      rw [Grammar.applyToTemplate_standard_eq_refuse rfl] at failed
      cases failed
      exact .misplaced d rfl

/-! ## What is left -/

/-- Whether a command requires a variant that there is none. -/
def Command.lacksVariant : Command → Bool
  | .model .variant value => (ModelVariant.ofKeyword? value).isNone
  | _ => false

/-- What is read from a line requires variants that there are. -/
theorem lacksVariant_of_parse {line : String} {place : Place} {c : Command}
    (parsed : Grammar.standard.parse line place = .ok c) : c.lacksVariant = false := by
  cases c with
  | model key value =>
      obtain ⟨-, -, keyword, skipped, -, read⟩ := Grammar.exists_arguments parsed
      dsimp only [Command.kind, Grammar.owner, Directive.model] at read
      rcases Model.parse_ok_iff.1 read with ⟨_, _, variant, -, -, -, is⟩ | ⟨_, _, -, -, is⟩
      · cases is
        simp only [Command.lacksVariant, variant.ofKeyword?_word, Option.isNone_some]
      · cases is
        rfl
  | _ => rfl

/-- Requirements that are there stay as they are when they come into being. -/
theorem HeadRefusal.left_eq {c : Command} {p : Pipeline} {r : Refused Pipeline}
    (refusal : HeadRefusal c p r) :
    r.left = if c.lacksVariant = true ∧ p.defaults = none then { p with defaults := some {} }
      else p := by
  cases refusal with
  | parameter | knowledge => simp [Command.lacksVariant]
  | variant _ unknown =>
      cases defaults : p.defaults with
      | none => simp [Command.lacksVariant, unknown]
      | some requirements =>
          rw [if_neg (by simp), Option.getD_some, ← defaults]
  | misplaced _ noEdit =>
      cases c with
      | model => cases noEdit
      | _ => simp [Command.lacksVariant]

theorem TemplateRefusal.left_eq {c : Command} {d : Draft} {r : Refused Draft}
    (refusal : TemplateRefusal c d r) :
    r.left = if c.lacksVariant = true ∧ d.template.requirements = none then
        { d with template.requirements := some {} }
      else d := by
  cases refusal with
  | parameter | execute | persona | knowledge | expectAmount | expectFormat | iterate =>
      simp [Command.lacksVariant]
  | requirement required => simp [required]
  | variant _ unknown =>
      cases required : d.template.requirements with
      | none => simp [Command.lacksVariant, unknown]
      | some requirements =>
          rw [if_neg (by simp), Option.getD_some, ← required]
  | misplaced _ noEdit =>
      cases c with
      | model => cases noEdit
      | _ => simp [Command.lacksVariant]

/-- **A refused command leaves everything as it is**, unless it requires a variant that there
is none of a head or a template without requirements, which then has requirements that demand
nothing.  No line has such a command. -/
theorem refused_left (c : Command) :
    (∀ p r, (Grammar.standard.applyToHead c p).value = .error r →
      r.left = if c.lacksVariant = true ∧ p.defaults = none then { p with defaults := some {} }
        else p)
      ∧ (∀ d r, (Grammar.standard.applyToTemplate c d).value = .error r →
        r.left = if c.lacksVariant = true ∧ d.template.requirements = none then
            { d with template.requirements := some {} }
          else d)
      ∧ ∀ line place, Grammar.standard.parse line place = .ok c → c.lacksVariant = false :=
  ⟨fun _ _ failed => (headRefusal_of_error failed).left_eq,
    fun _ _ failed => (templateRefusal_of_error failed).left_eq,
    fun _ _ parsed => lacksVariant_of_parse parsed⟩

/-- A head that refuses a variant that there is none, and a template that refuses a second
persona. -/
theorem refused_left_persona :
    let c : Command := .model .variant "Poem"
    let p := Pipeline.new "T"
    let c' : Command := .persona "Joe" (some "a lawyer")
    let d : Draft := ⟨{ Template.new "Step" "x" "r" with persona := some "Jane" }, p⟩
    (∃ r, (Grammar.standard.applyToHead c p).value = .error r
        ∧ r.left = { p with defaults := some {} })
      ∧ (∃ r, (Grammar.standard.applyToTemplate c' d).value = .error r ∧ r.left = d)
      ∧ Grammar.standard.parse "PERSONA Joe, a lawyer" .template = .ok c'
      ∧ c'.lacksVariant = false := by
  intro c p c' d
  have unknown : ModelVariant.ofKeyword? "Poem" = none := by decide +kernel
  have refused := applyToHead_unknown unknown p
  have refused' : (Grammar.standard.applyToTemplate c' d).value
      = .error ⟨.conflict (.persona "Step" "Jane" "Joe"), d⟩ := by
    rw [Grammar.applyToTemplate_standard rfl]
    rfl
  have parsed : Grammar.standard.parse "PERSONA Joe, a lawyer" .template = .ok c' := by
    decide +kernel
  obtain ⟨ofHead, -, -⟩ := refused_left c
  obtain ⟨-, ofTemplate, ofLine⟩ := refused_left c'
  refine ⟨⟨_, refused, ?_⟩, ⟨_, refused', ?_⟩, parsed, ofLine _ _ parsed⟩
  · rw [ofHead _ _ refused, if_pos ⟨by simp [c, Command.lacksVariant, unknown], rfl⟩]
  · rw [ofTemplate _ _ refused', if_neg (by simp [c', Command.lacksVariant])]

/-- A variant that there is none is refused only after requirements have come into being. -/
theorem refused_left_changed :
    (¬∀ c p r, (Grammar.standard.applyToHead c p).value = .error r → r.left = p)
      ∧ ¬∀ c d r, (Grammar.standard.applyToTemplate c d).value = .error r → r.left = d := by
  have unknown : ModelVariant.ofKeyword? "Poem" = none := by decide +kernel
  let p := Pipeline.new "T"
  let d : Draft := ⟨Template.new "Step" "" "result", p⟩
  constructor
  · intro always
    have same := always (.model .variant "Poem") p _ (applyToHead_unknown unknown p)
    have demanded : some ({} : ModelRequirements) = none := congrArg Pipeline.defaults same
    cases demanded
  · intro always
    have same := always (.model .variant "Poem") d _ (applyToTemplate_unknown unknown d)
    have demanded : some ({} : ModelRequirements) = none :=
      congrArg (fun d : Draft => d.template.requirements) same
    cases demanded

end PromptPipeline
