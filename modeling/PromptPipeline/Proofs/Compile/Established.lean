/-
# Proofs.Compile.Established -- what compiling ensures without the check

`Established` is kept by every command that was read from a line, by the implicit
declaration of results and by linking.  So a pipeline that compiles is grounded, its
bounds are sound, its jokers are dependents and it has nothing of a prepared one,
also when the check is off (`compile_established`).
-/
import PromptPipeline.Preparation
import PromptPipeline.Proofs.Compile.Run
import PromptPipeline.Proofs.Edit.Coherent
import PromptPipeline.Proofs.Grammar.Parse
import PromptPipeline.Proofs.Validation.Grounded

namespace PromptPipeline

set_option autoImplicit false

/-! ## The invariant -/

/-- A template of a compiled pipeline: its result is declared and its jokers are
among its dependents. -/
structure Template.Complete (p : Pipeline) (t : Template) : Prop where
  coherent : t.Coherent p
  declared : ∃ q ∈ p.parameters, q.name = t.result
  jokers : ∀ name ∈ t.jokers, name ∈ t.dependents

/-- What holds of a pipeline at every moment of compiling it. -/
structure Pipeline.Established (p : Pipeline) : Prop where
  coherent : p.Coherent
  version : ∀ version, p.version = some version → SemanticVersion.isValid version = true
  unreserved : ∀ q ∈ p.parameters, Name.isReserved q.name = false
  templates : ∀ t ∈ p.templates, t.Complete p

/-- What holds of a template and its pipeline while the commands of a section are
applied. -/
structure Draft.Established (d : Draft) : Prop where
  pipeline : d.pipeline.Established
  template : d.template.Coherent d.pipeline
  jokers : ∀ name ∈ d.template.jokers, Name.isReserved name = false
  result : Name.isReserved d.template.result = false

theorem Template.Complete.grows {p p' : Pipeline} {t : Template} (complete : t.Complete p)
    (grows : p.Grows p') : t.Complete p' where
  coherent := complete.coherent.grows grows
  declared := by
    obtain ⟨q, hq, named⟩ := complete.declared
    exact ⟨q, grows.parameters.subset hq, named⟩
  jokers := complete.jokers

theorem Pipeline.established_new (title : String) (description : Option String) :
    Pipeline.Established { Pipeline.new title with description } where
  coherent := Pipeline.coherent_new title description
  version := fun _ h => nomatch h
  unreserved := fun _ h => nomatch h
  templates := fun _ h => nomatch h

/-! ## Commands -/

theorem HeadStep.version_valid {c : Command} {p p' : Pipeline} (admissible : c.Admissible)
    (step : HeadStep c p p')
    (valid : ∀ version, p.version = some version → SemanticVersion.isValid version = true) :
    ∀ version, p'.version = some version → SemanticVersion.isValid version = true := by
  cases step with
  | url | parameter | modelVariant | modelName | persona => exact valid
  | version given =>
      intro version set
      rcases Option.or_eq_some_iff.1 set with before | ⟨-, now⟩
      · exact valid version before
      · cases now
        exact admissible
  | knowledge registered =>
      rcases Directive.Knowledge.register_ok_iff.1 registered with ⟨_, -, -, rfl⟩ | ⟨-, rfl⟩
      · exact valid
      · exact valid

theorem HeadStep.names_unreserved {c : Command} {p p' : Pipeline} (admissible : c.Admissible)
    (step : HeadStep c p p') (unreserved : ∀ q ∈ p.parameters, Name.isReserved q.name = false) :
    ∀ q ∈ p'.parameters, Name.isReserved q.name = false := by
  cases step with
  | url | version | modelVariant | modelName | persona => exact unreserved
  | parameter description isInput isOutput free =>
      exact List.forall_mem_append.2 ⟨unreserved, List.forall_mem_singleton.2 admissible.1⟩
  | knowledge registered =>
      rcases Directive.Knowledge.register_ok_iff.1 registered with ⟨_, -, -, rfl⟩ | ⟨-, rfl⟩
      · exact unreserved
      · exact unreserved

/-- **An admissible command keeps what is established of a pipeline.** -/
theorem HeadStep.established {c : Command} {p p' : Pipeline} (admissible : c.Admissible)
    (step : HeadStep c p p') (established : p.Established) : p'.Established where
  coherent := step.coherent established.coherent
  version := step.version_valid admissible established.version
  unreserved := step.names_unreserved admissible established.unreserved
  templates := fun t ht => (established.templates t (step.grows.templates ▸ ht)).grows step.grows

theorem TemplateStep.result {c : Command} {d d' : Draft} (step : TemplateStep c d d') :
    d'.template.result = d.template.result := by
  cases step <;> rfl

theorem TemplateStep.jokers_unreserved {c : Command} {d d' : Draft} (admissible : c.Admissible)
    (step : TemplateStep c d d')
    (unreserved : ∀ name ∈ d.template.jokers, Name.isReserved name = false) :
    ∀ name ∈ d'.template.jokers, Name.isReserved name = false := by
  cases step with
  | joker joker =>
      intro name member
      rcases mem_insertLast member with member | rfl
      · exact unreserved name member
      · exact admissible
  | _ => exact unreserved

/-- **An admissible command keeps what is established of a draft.** -/
theorem TemplateStep.established {c : Command} {d d' : Draft} (admissible : c.Admissible)
    (step : TemplateStep c d d') (established : d.Established) : d'.Established where
  pipeline := by
    rcases step.pipeline with same | head
    · exact same ▸ established.pipeline
    · exact head.established admissible established.pipeline
  template := step.coherent established.template
  jokers := step.jokers_unreserved admissible established.jokers
  result := step.result ▸ established.result

namespace Compile

/-! ## Sections -/

theorem established_compileHead {options : CompileOptions} {head : Section} {title : String}
    {description : Option String} {p : Pipeline}
    (compiled : (compileHead options head { Pipeline.new title with description }).value = .ok p) :
    p.Established := by
  obtain ⟨-, ran⟩ := compileHead_ok_iff.1 compiled
  refine Logged.foldlM_keeps (fun p line p' applied established => ?_) ran
    (Pipeline.established_new title description)
  obtain ⟨c, parsed, applied⟩ := applyLine_ok_iff.1 applied
  exact (applyToHead_ok_iff.1 applied).established (Grammar.parse_admissible parsed) established

theorem coherent_startTemplate {s : Section} {t : Template} (started : startTemplate s = .ok t)
    (p : Pipeline) : t.Coherent p ∧ t.jokers = [] ∧ Name.isReserved t.result = false := by
  obtain ⟨block, raw, result, -, -, valid, rfl⟩ := startTemplate_ok_iff.1 started
  exact ⟨{ Template.coherent_new p s.title block.content result with }, rfl,
    Name.isReserved_of_validate valid⟩

/-- The jokers are dependents once these have been found, as none of them is reserved. -/
theorem mem_dependents_of_joker {t : Template} {name : String} (joker : name ∈ t.jokers)
    (unreserved : Name.isReserved name = false) : name ∈ dependents t := by
  unfold dependents
  rw [NameSet.mem_ofList, List.mem_filter]
  exact ⟨List.mem_append_right _ joker, by simp [unreserved]⟩

theorem established_compileTemplate {p : Pipeline} {s : Section} {d : Draft}
    (compiled : (compileTemplate p s).value = .ok d) (established : p.Established) :
    d.Established ∧ ∀ name ∈ d.template.jokers, name ∈ d.template.dependents := by
  obtain ⟨t, draft, started, ran, rfl⟩ := compileTemplate_ok_iff.1 compiled
  obtain ⟨coherent, noJokers, result⟩ := coherent_startTemplate started p
  have kept : draft.Established := by
    refine Logged.foldlM_keeps (fun d line d' applied established => ?_) ran
      ⟨established, coherent, by simp [noJokers], result⟩
    obtain ⟨c, parsed, applied⟩ := applyLine_ok_iff.1 applied
    exact (applyToTemplate_ok_iff.1 applied).established (Grammar.parse_admissible parsed)
      established
  constructor
  · exact { kept with template := { kept.template with } }
  · intro name joker
    exact mem_dependents_of_joker joker (kept.jokers name joker)

/-- A pipeline with one more parameter, whose name is neither declared nor reserved. -/
theorem established_declare {p : Pipeline} {name : String} (established : p.Established)
    (missing : ¬(p.parameter? name).isSome = true) (unreserved : Name.isReserved name = false) :
    Pipeline.Established { p with parameters := p.parameters ++ [{ name := name }] } := by
  have grows : p.Grows { p with parameters := p.parameters ++ [{ name := name }] } :=
    { p.grows_refl with parameters := List.prefix_append _ _ }
  have free : ∀ q ∈ p.parameters, q.name ≠ name := fun q hq same =>
    missing (parameter?_isSome_iff.2 ⟨q, hq, same⟩)
  refine { established with
    coherent := { established.coherent with
      parameters := nodup_map_concat established.coherent.parameters free rfl }
    unreserved := ?_
    templates := fun t ht => (established.templates t ht).grows grows }
  exact List.forall_mem_append.2
    ⟨established.unreserved, List.forall_mem_singleton.2 unreserved⟩

/-- A complete template may be put at the end. -/
theorem established_push {p : Pipeline} {t : Template} (established : p.Established)
    (complete : t.Complete p) :
    Pipeline.Established { p with templates := p.templates ++ [t] } := by
  refine { established with
    coherent := { established.coherent with }
    templates := fun u hu => ?_ }
  have all : ∀ u ∈ p.templates ++ [t], u.Complete p :=
    List.forall_mem_append.2 ⟨established.templates, List.forall_mem_singleton.2 complete⟩
  have kept := all u hu
  exact { kept with coherent := { kept.coherent with } }

theorem established_add {x : Progress} {t : Template}
    (established : Draft.Established ⟨t, x.pipeline⟩)
    (jokers : ∀ name ∈ t.jokers, name ∈ t.dependents) : (x.add t).pipeline.Established := by
  unfold Progress.add
  dsimp only
  split
  · rename_i declared
    exact established_push established.pipeline
      ⟨established.template, parameter?_isSome_iff.1 declared, jokers⟩
  · rename_i missing
    have declared := established_declare established.pipeline missing established.result
    refine established_push declared ⟨{ established.template with }, ?_, jokers⟩
    exact ⟨_, List.mem_append_right _ List.mem_cons_self, rfl⟩

theorem established_addSection {x x' : Progress} {s : Section}
    (added : (addSection x s).value = .ok x') (established : x.pipeline.Established) :
    x'.pipeline.Established := by
  obtain ⟨draft, compiled, rfl⟩ := addSection_ok_iff.1 added
  obtain ⟨kept, jokers⟩ := established_compileTemplate compiled established
  exact established_add kept jokers

/-! ## Linking -/

/-- Linking only decides which parameters are outputs. -/
theorem link_name {x : Progress} :
    x.link.parameters.map Parameter.name = x.pipeline.parameters.map Parameter.name := by
  unfold Progress.link
  rw [List.map_map]
  refine List.map_congr_left fun q _ => ?_
  dsimp only [Function.comp]
  split
  · rfl
  · rfl

theorem established_link {x : Progress} (established : x.pipeline.Established) :
    x.link.Established where
  coherent := { established.coherent with
    parameters := link_name ▸ established.coherent.parameters }
  version := established.version
  unreserved := by
    intro q hq
    obtain ⟨q', hq', same⟩ := (Validation.exists_name_iff link_name).1 ⟨q, hq, rfl⟩
    exact same ▸ established.unreserved q' hq'
  templates := by
    intro t ht
    have complete := established.templates t ht
    exact {
      coherent := { complete.coherent with }
      declared := (Validation.exists_name_iff link_name).2 complete.declared
      jokers := complete.jokers }

end Compile

/-! ## What is established -/

theorem map_eq_self {α : Type} {f : α → α} {l : List α} (same : ∀ a ∈ l, f a = a) : l.map f = l :=
  (List.map_congr_left same).trans l.map_id

namespace Pipeline.Established

variable {p : Pipeline}

theorem grounded (established : p.Established) : Validation.Grounded p where
  version := established.version
  parametersDistinct := established.coherent.parameters
  notReserved := fun q hq reserved => by
    have free := established.unreserved q hq
    simp [Name.isReserved, reserved] at free
  resultsDeclared := fun t ht => (established.templates t ht).declared
  personasKnown := fun t ht => (established.templates t ht).coherent.voiced
  sourcesKnown := fun t ht => (established.templates t ht).coherent.linked

/-- A compiled pipeline has nothing that preparing would have added. -/
theorem strip (established : p.Established) : Preparation.strip p = p := by
  have personas : ∀ q ∈ p.personas,
      { q with requirements := none, preparationIds := none } = q := by
    intro q hq
    obtain ⟨noRequirements, noIds⟩ := established.coherent.unprepared q hq
    rw [← noRequirements, ← noIds]
  have sources : ∀ s ∈ p.knowledge, { s with preparationIds := none } = s := by
    intro s hs
    rw [← (established.coherent.derived s hs).2]
  have templates : ∀ t ∈ p.templates, Preparation.stripTemplate t = t := by
    intro t ht
    unfold Preparation.stripTemplate
    rw [(established.templates t ht).coherent.unprepared]
  unfold Preparation.strip
  rw [map_eq_self personas, map_eq_self sources, map_eq_self templates]

end Pipeline.Established

/-- **Every source that compiles gives an established pipeline.** -/
theorem established_compile {options : CompileOptions} {source : String} {p : Pipeline}
    (compiled : (compile options source).value = .ok p) : p.Established := by
  obtain ⟨d, -, compiled⟩ := compile_ok_iff.1 compiled
  obtain ⟨p₀, x, head, sections, -, rfl⟩ := Compile.ofDocument_ok_iff.1 compiled
  refine Compile.established_link ?_
  exact Logged.foldlM_keeps (I := fun x => x.pipeline.Established)
    (fun _ _ _ => Compile.established_addSection) sections (Compile.established_compileHead head)

/-- **What compiling ensures, checked or not**: a version that is one, distinct and free
parameter names, results, personas and sources that resolve, sound bounds, jokers that
are dependents, and nothing of a prepared pipeline. -/
theorem compile_established {options : CompileOptions} {source : String} {p : Pipeline}
    (compiled : (compile options source).value = .ok p) :
    (∀ v ∈ Validation.violations p, v.code ∉ ["E002", "E003", "E004", "E008", "E014", "E015"])
      ∧ (∀ t ∈ p.templates, ∀ unit bounds, t.expectations.get unit = some bounds → bounds.Sound)
      ∧ (∀ t ∈ p.templates, ∀ name ∈ t.jokers, name ∈ t.dependents)
      ∧ Preparation.strip p = p := by
  have established := established_compile compiled
  refine ⟨fun v found ruled => ?_, ?_, ?_, established.strip⟩
  · have left := established.grounded.code found
    generalize v.code = code at left ruled
    revert code
    decide
  · exact fun t ht => (established.templates t ht).coherent.bounded
  · exact fun t ht => (established.templates t ht).jokers

/-- The joker is declared nowhere, so the check would refuse this pipeline. -/
theorem compile_established_unchecked :
    let source := "## Write\n- JOKER {old}\n```\nHi\n```\n-> {new}\n"
    let t : Template :=
      { Template.new "Write" "Hi" "new" with jokers := ["old"], dependents := .ofList ["old"] }
    let p : Pipeline :=
      { title := "", parameters := [{ name := "new", isOutput := true }], templates := [t] }
    (compile { validate := false } source).value = .ok p
      ∧ (∀ v ∈ Validation.violations p, v.code ∉ ["E002", "E003", "E004", "E008", "E014", "E015"])
      ∧ (∀ t ∈ p.templates, ∀ unit bounds, t.expectations.get unit = some bounds → bounds.Sound)
      ∧ (∀ t ∈ p.templates, ∀ name ∈ t.jokers, name ∈ t.dependents)
      ∧ Preparation.strip p = p := by
  intro source t p
  have compiled : (compile { validate := false } source).value = .ok p := by decide +kernel
  exact ⟨compiled, compile_established compiled⟩

end PromptPipeline
