/-
# Proofs.Edit.Replay -- the commands that are taken back rebuild what they come from

Every directive takes back commands that, made one after another on a state whose
part the directive has not touched yet, restore that part and nothing else.  Run in
catalog order from a fresh pipeline or template, they restore all of it, provided
that it is coherent.
-/
import PromptPipeline.Proofs.Edit.Coherent
import PromptPipeline.Document.Print

namespace PromptPipeline

set_option autoImplicit false

open Directive

/-! ## Words -/

/-- A variant is known by its word. -/
theorem ModelVariant.ofKeyword?_word (variant : ModelVariant) :
    ModelVariant.ofKeyword? variant.word = some variant := by
  cases variant <;> decide

/-! ## The parts of a head -/

/-- In a list of distinct names nothing before an element has its name. -/
theorem free_of_nodup {α β : Type} {name : α → β} {before after : List α} {a : α}
    (unique : ((before ++ a :: after).map name).Nodup) : ∀ b ∈ before, name b ≠ name a := by
  rw [List.map_append, List.nodup_append] at unique
  intro b hb
  exact unique.2.2 _ (List.mem_map_of_mem hb) _ List.mem_cons_self

theorem Url.replay (p : Pipeline) (url : Option String) :
    Steps HeadStep (url.toList.map .url) { p with url := none } { p with url := url } := by
  cases url with
  | none => exact .nil _
  | some url => exact .single (.url url { p with url := none })

theorem Version.replay (p : Pipeline) (version : Option String) :
    Steps HeadStep (version.toList.map .version) { p with version := none }
      { p with version := version } := by
  cases version with
  | none => exact .nil _
  | some version => exact .single (.version version { p with version := none })

theorem Parameter.replay (p : Pipeline) {parameters : List PromptPipeline.Parameter}
    (unique : (parameters.map PromptPipeline.Parameter.name).Nodup) :
    Steps HeadStep (parameters.map fun q => .parameter q.name q.description q.isInput q.isOutput)
      { p with parameters := [] } { p with parameters := parameters } := by
  refine Steps.restores (fun l => { p with parameters := l }) ?_
  rintro before q after rfl
  exact .parameter q.description q.isInput q.isOutput (free_of_nodup unique)

/-- Requirements that demand something are made on none. -/
theorem Model.replay_head (p : Pipeline) {requirements : Option ModelRequirements}
    (demanding : requirements ≠ some {}) :
    Steps HeadStep (Model.commands requirements) { p with defaults := none }
      { p with defaults := requirements } := by
  rcases requirements with _ | ⟨_ | variant, _ | name⟩
  · exact .nil _
  · exact absurd rfl demanding
  · exact .single (.modelName name { p with defaults := none })
  · exact .single (.modelVariant { p with defaults := none } variant.ofKeyword?_word)
  · exact .cons (.modelVariant { p with defaults := none } variant.ofKeyword?_word)
      (.single (.modelName name _))

/-- The description of a persona is spelled unless it is empty. -/
theorem Persona.spelled (description : String) :
    (if description.isEmpty then none else some description).getD "" = description := by
  split
  · rename_i empty
    exact (String.isEmpty_iff.1 empty).symm
  · rfl

theorem Persona.replay (p : Pipeline) {personas : List PromptPipeline.Persona}
    (unique : (personas.map PromptPipeline.Persona.name).Nodup)
    (trimmed : ∀ q ∈ personas, Text.trim q.description = q.description)
    (unprepared : ∀ q ∈ personas, q.requirements = none ∧ q.preparationIds = none) :
    Steps HeadStep
      (personas.map fun q =>
        .persona q.name (if q.description.isEmpty then none else some q.description))
      { p with personas := [] } { p with personas := personas } := by
  refine Steps.restores (fun l => { p with personas := l }) ?_
  rintro before q after rfl
  have member : q ∈ before ++ q :: after := List.mem_append_right _ List.mem_cons_self
  have registers :
      Directive.Persona.register q.name
          ((if q.description.isEmpty then none else some q.description).getD "") before
        = before ++ [q] := by
    rw [Directive.Persona.register_of_not_mem (free_of_nodup unique), spelled, trimmed q member]
    obtain ⟨noRequirements, noIds⟩ := unprepared q member
    rcases q with ⟨_, _, _, _⟩
    cases noRequirements
    cases noIds
    rfl
  have step := HeadStep.persona q.name
    (if q.description.isEmpty then none else some q.description) { p with personas := before }
  simpa only [registers] using step

theorem Knowledge.replay (p : Pipeline) {sources : List KnowledgeSource}
    (unique : (sources.map KnowledgeSource.name).Nodup)
    (derived : ∀ s ∈ sources, s.name = Knowledge.sourceName s.content ∧ s.preparationIds = none) :
    Steps HeadStep (sources.map fun s => .knowledge s.content)
      { p with knowledge := [] } { p with knowledge := sources } := by
  refine Steps.restores (fun l => { p with knowledge := l }) ?_
  rintro before s after rfl
  have member : s ∈ before ++ s :: after := List.mem_append_right _ List.mem_cons_self
  obtain ⟨named, noIds⟩ := derived s member
  have free := free_of_nodup unique
  rw [named] at free
  refine .knowledge (Knowledge.register_ok_iff.2 (.inr ⟨?_, ?_⟩))
  · exact Knowledge.source?_eq_none_iff.2 free
  · rcases s with ⟨name, content, _⟩
    cases noIds
    dsimp only at named
    rw [← named]

/-! ## The parts of a template -/

theorem Execute.replay (t : Template) (p : Pipeline) (execution : Execution) :
    Steps TemplateStep (if execution = .promptTemplate then [] else [.execute execution])
      ⟨{ t with execution := .promptTemplate }, p⟩ ⟨{ t with execution := execution }, p⟩ := by
  split
  · rename_i prompt
    exact prompt ▸ .nil _
  · exact .single (.execute (.inl rfl))

/-- Requirements that demand something are made on none. -/
theorem Model.replay_template (t : Template) (p : Pipeline)
    {requirements : Option ModelRequirements} (demanding : requirements ≠ some {}) :
    Steps TemplateStep (Model.commands requirements) ⟨{ t with requirements := none }, p⟩
      ⟨{ t with requirements := requirements }, p⟩ := by
  have free {α : Type} (value : α) : ∀ existing : α, none = some existing → existing = value :=
    fun _ h => nomatch h
  rcases requirements with _ | ⟨_ | variant, _ | name⟩
  · exact .nil _
  · exact absurd rfl demanding
  · exact .single (.modelName (free name))
  · exact .single (.modelVariant variant.ofKeyword?_word (free variant))
  · exact .cons (.modelVariant variant.ofKeyword?_word (free variant))
      (.single (.modelName (free name)))

/-- A persona that is registered is entered without a change to the personas. -/
theorem Persona.replay_template (t : Template) {p : Pipeline} {persona : Option String}
    (voiced : ∀ name, persona = some name → ∃ q ∈ p.personas, q.name = name) :
    Steps TemplateStep (persona.toList.map (.persona · none))
      ⟨{ t with persona := none }, p⟩ ⟨{ t with persona := persona }, p⟩ := by
  cases persona with
  | none => exact .nil _
  | some name =>
      have step : TemplateStep (.persona name none) ⟨{ t with persona := none }, p⟩ _ :=
        .persona none fun _ h => nomatch h
      have same : Directive.Persona.register name ((none : Option String).getD "") p.personas
          = p.personas := Directive.Persona.register_empty (voiced name rfl)
      rw [same] at step
      exact .single step

theorem Knowledge.map_name_sources {p : Pipeline} {names : List String}
    (known : ∀ name ∈ names, ∃ s ∈ p.knowledge, s.name = name) :
    (names.filterMap p.source?).map KnowledgeSource.name = names := by
  induction names with
  | nil => rfl
  | cons first rest ih =>
      obtain ⟨⟨s, member, named⟩, knownRest⟩ := List.forall_mem_cons.1 known
      cases found : p.source? first with
      | none => exact absurd named (Knowledge.source?_eq_none_iff.1 found s member)
      | some source =>
          rw [List.filterMap_cons_some found, List.map_cons, ih knownRest,
            (Knowledge.mem_of_source?_eq_some found).2]

/-- Sources that are registered are linked without a change to the sources. -/
theorem Knowledge.replay_template (t : Template) {p : Pipeline} (coherent : p.Coherent)
    {linked : List String} (known : ∀ name ∈ linked, ∃ s ∈ p.knowledge, s.name = name)
    (unique : linked.Nodup) :
    Steps TemplateStep ((linked.filterMap p.source?).map fun s => .knowledge s.content)
      ⟨{ t with knowledge := [] }, p⟩ ⟨{ t with knowledge := linked }, p⟩ := by
  have names := map_name_sources known
  have found : ∀ s ∈ linked.filterMap p.source?, s ∈ p.knowledge := by
    intro s hs
    obtain ⟨name, -, atName⟩ := List.mem_filterMap.1 hs
    exact (Knowledge.mem_of_source?_eq_some atName).1
  generalize linked.filterMap p.source? = sources at names found
  rw [← names] at unique ⊢
  refine Steps.restores
    (fun l => (⟨{ t with knowledge := l.map KnowledgeSource.name }, p⟩ : Draft)) ?_
  rintro before s after rfl
  have member : s ∈ p.knowledge := found s (List.mem_append_right _ List.mem_cons_self)
  obtain ⟨named, -⟩ := coherent.derived s member
  have registered : Knowledge.register s.content p = .ok p :=
    Knowledge.register_ok_iff.2
      (.inl ⟨s, named ▸ Knowledge.source?_of_mem coherent.sources member, rfl, rfl⟩)
  have step := TemplateStep.knowledge
    (d := ⟨{ t with knowledge := before.map KnowledgeSource.name }, p⟩) registered
  have fresh : s.name ∉ before.map KnowledgeSource.name := by
    intro there
    obtain ⟨b, hb, same⟩ := List.mem_map.1 there
    exact free_of_nodup unique b hb same
  rw [← named] at step
  simpa [fresh] using step

theorem Joker.replay (t : Template) (p : Pipeline) {jokers : List String} (unique : jokers.Nodup) :
    Steps TemplateStep (jokers.map .joker) ⟨{ t with jokers := [] }, p⟩
      ⟨{ t with jokers := jokers }, p⟩ := by
  refine Steps.restores (fun l => (⟨{ t with jokers := l }, p⟩ : Draft)) ?_
  rintro before name after rfl
  have fresh : name ∉ before := by
    intro there
    exact (List.nodup_append.1 unique).2.2 name there name List.mem_cons_self rfl
  have step := TemplateStep.joker name ⟨{ t with jokers := before }, p⟩
  simpa [fresh] using step

theorem Postprocess.replay (t : Template) (p : Pipeline) (functions : List String) :
    Steps TemplateStep (functions.map .postprocess) ⟨{ t with postprocessing := [] }, p⟩
      ⟨{ t with postprocessing := functions }, p⟩ := by
  refine Steps.restores (fun l => (⟨{ t with postprocessing := l }, p⟩ : Draft)) ?_
  rintro before function after -
  exact .postprocess function ⟨{ t with postprocessing := before }, p⟩

/-! ## Expectations -/

/-- Expectations are what they say of each unit. -/
theorem Expectations.ext_get {e e' : Expectations} (same : ∀ unit, e.get unit = e'.get unit) :
    e = e' := by
  rcases e with ⟨_, _, _, _, _, _⟩
  rcases e' with ⟨_, _, _, _, _, _⟩
  congr 1
  · exact same .characters
  · exact same .words
  · exact same .sentences
  · exact same .lines
  · exact same .paragraphs
  · exact same .pages

theorem Expectations.set_set (e : Expectations) (unit : AmountUnit) (b b' : Bounds) :
    (e.set unit b).set unit b' = e.set unit b' := by
  cases unit <;> rfl

/-- An expectation that restricts the bounds of its unit takes a step. -/
theorem Expect.step {sign : BoundSign} {unit : AmountUnit} {amount : UInt32} {bounds : Bounds}
    {d : Draft}
    (restricts : Expect.Restricts sign amount ((d.template.expectations.get unit).getD {}) bounds) :
    TemplateStep (.expectAmount sign unit amount) d
      { d with template.expectations := d.template.expectations.set unit bounds } :=
  .expectAmount (Expect.restrict_ok_iff.2 restricts)

/-- The commands that set sound bounds of a unit set them where there are none. -/
theorem Expect.replay_unit {unit : AmountUnit} {bounds : Bounds} (sound : bounds.Sound) {d : Draft}
    (free : d.template.expectations.get unit = none) :
    Steps TemplateStep (Expect.boundCommands unit bounds) d
      { d with template.expectations := d.template.expectations.set unit bounds } := by
  have ordered := sound.ordered
  rcases bounds with ⟨_ | low, _ | high⟩
  · rcases sound.bounds with none | none
    · exact absurd rfl none
    · exact absurd rfl none
  · refine .single (Expect.step ?_)
    rw [free]
    exact ⟨(fun h => nomatch h), (fun _ _ h => nomatch h), rfl, rfl, ordered⟩
  · refine .single (Expect.step ?_)
    rw [free]
    exact ⟨(fun _ _ h => nomatch h), (fun h => nomatch h), rfl, rfl, ordered⟩
  · unfold Expect.boundCommands
    dsimp only
    split
    · rename_i same
      subst same
      refine .single (Expect.step ?_)
      rw [free]
      exact ⟨(fun _ _ h => nomatch h), (fun _ _ h => nomatch h), rfl, rfl, ordered⟩
    · -- The lower bound comes first, so the upper one finds it.
      have below : TemplateStep (.expectAmount .minimum unit low) d
          { d with
            template.expectations := d.template.expectations.set unit ⟨some low, none⟩ } := by
        refine Expect.step ?_
        rw [free]
        exact ⟨(fun _ _ h => nomatch h), (fun h => nomatch h), rfl, rfl, fun _ _ _ h => nomatch h⟩
      refine .cons below (.single ?_)
      rw [← Expectations.set_set d.template.expectations unit ⟨some low, none⟩
        ⟨some low, some high⟩]
      refine Expect.step ?_
      dsimp only
      rw [Expectations.get_set, if_pos rfl]
      exact ⟨(fun h => nomatch h), (fun _ _ h => nomatch h), rfl, rfl, ordered⟩

/-- The expectations on some units are restored where there are none, and those on
other units stay. -/
theorem Expect.replay_units {e : Expectations}
    (bounded : ∀ unit bounds, e.get unit = some bounds → bounds.Sound) (units : List AmountUnit)
    (unique : units.Nodup) {d : Draft}
    (free : ∀ unit ∈ units, d.template.expectations.get unit = none) :
    ∃ e', Steps TemplateStep
        ((units.filterMap fun unit => (e.get unit).map (unit, ·)).flatMap fun x =>
          Expect.boundCommands x.1 x.2) d { d with template.expectations := e' }
      ∧ ∀ unit, e'.get unit
        = if unit ∈ units then e.get unit else d.template.expectations.get unit := by
  induction units generalizing d with
  | nil => exact ⟨_, .nil _, fun _ => by simp⟩
  | cons first rest ih =>
      obtain ⟨fresh, uniqueRest⟩ := List.nodup_cons.1 unique
      obtain ⟨freeFirst, freeRest⟩ := List.forall_mem_cons.1 free
      cases found : e.get first with
      | none =>
          obtain ⟨e', run, gets⟩ := ih uniqueRest freeRest
          refine ⟨e', by simpa [found] using run, fun unit => ?_⟩
          rw [gets]
          by_cases same : unit = first
          · subst same
            simp [fresh, freeFirst, found]
          · simp [same]
      | some bounds =>
          have first_ := Expect.replay_unit (bounded first bounds found) freeFirst
          have freeRest' : ∀ unit ∈ rest,
              (d.template.expectations.set first bounds).get unit = none := by
            intro unit hunit
            have differs : unit ≠ first := fun same => fresh (same ▸ hunit)
            rw [Expectations.get_set, if_neg differs]
            exact freeRest unit hunit
          obtain ⟨e', run, gets⟩ := ih uniqueRest
            (d := { d with template.expectations := d.template.expectations.set first bounds })
            freeRest'
          refine ⟨e', by simpa [found] using first_.append run, fun unit => ?_⟩
          rw [gets]
          by_cases same : unit = first
          · subst same
            simp [fresh, Expectations.get_set, found]
          · simp [same, Expectations.get_set]

theorem Expect.replay (t : Template) (p : Pipeline) {e : Expectations}
    (bounded : ∀ unit bounds, e.get unit = some bounds → bounds.Sound)
    (format : Option ResultFormat) :
    Steps TemplateStep
      ((e.toList.flatMap fun x => Expect.boundCommands x.1 x.2)
        ++ format.toList.map .expectFormat)
      ⟨{ t with expectations := {}, format := none }, p⟩
      ⟨{ t with expectations := e, format := format }, p⟩ := by
  obtain ⟨e', run, gets⟩ := Expect.replay_units bounded AmountUnit.all (by decide)
    (d := ⟨{ t with expectations := {}, format := none }, p⟩) (fun unit _ => by cases unit <;> rfl)
  obtain rfl : e' = e := by
    refine Expectations.ext_get fun unit => ?_
    rw [gets, if_pos (by cases unit <;> decide)]
  refine run.append ?_
  cases format with
  | none => exact .nil _
  | some format => exact .single (.expectFormat fun _ set => nomatch set)

/-! ## All of a head and of a template -/

/-- The commands of a head, in catalog order. -/
theorem headCommands_standard (p : Pipeline) :
    Document.headCommands Grammar.standard p
      = Directive.Url.fromHead p ++ (Directive.Version.fromHead p
        ++ (Directive.Parameter.fromHead p ++ (Directive.Model.fromHead p
        ++ (Directive.Persona.fromHead p ++ Directive.Knowledge.fromHead p)))) := by
  unfold Document.headCommands
  rw [Grammar.standard_directives]
  simp only [Grammar.catalog_eq, List.flatMap_cons, List.flatMap_nil, Directive.url,
    Directive.urlWith, Directive.version, Directive.parameter, Directive.execute, Directive.model,
    Directive.persona, Directive.knowledge, Directive.knowledgeWith, Directive.expect,
    Directive.postprocess, Directive.joker, Directive.iterate, Option.map_some, Option.map_none, Option.getD_some, Option.getD_none,
    List.nil_append, List.append_nil]

/-- The commands of a template, in catalog order. -/
theorem templateCommands_standard (d : Draft) :
    Document.templateCommands Grammar.standard d
      = Directive.Execute.fromTemplate d ++ (Directive.Model.fromTemplate d
        ++ (Directive.Persona.fromTemplate d ++ (Directive.Knowledge.fromTemplate d
        ++ (Directive.Expect.fromTemplate d ++ (Directive.Postprocess.fromTemplate d
        ++ Directive.Joker.fromTemplate d))))) := by
  unfold Document.templateCommands
  rw [Grammar.standard_directives]
  simp only [Grammar.catalog_eq, List.flatMap_cons, List.flatMap_nil, Directive.url,
    Directive.urlWith, Directive.version, Directive.parameter, Directive.execute, Directive.model,
    Directive.persona, Directive.knowledge, Directive.knowledgeWith, Directive.expect,
    Directive.postprocess, Directive.joker, Directive.iterate, Option.map_some, Option.map_none, Option.getD_some, Option.getD_none,
    List.nil_append, List.append_nil]

/-- **The commands of a coherent head rebuild it from a fresh pipeline.** -/
theorem Pipeline.Coherent.replay {p : Pipeline} (coherent : p.Coherent) :
    Steps HeadStep (Document.headCommands Grammar.standard p)
      { Pipeline.new p.title with description := p.description } { p with templates := [] } := by
  rw [headCommands_standard]
  rcases p with
    ⟨url, title, version, description, parameters, templates, knowledge, personas, defaults⟩
  exact (Url.replay { Pipeline.new title with description } url).append <|
    (Version.replay { Pipeline.new title with description, url } version).append <|
    (Parameter.replay { Pipeline.new title with description, url, version }
      coherent.parameters).append <|
    (Model.replay_head { Pipeline.new title with description, url, version, parameters }
      coherent.demanding).append <|
    (Persona.replay { Pipeline.new title with description, url, version, parameters, defaults }
      coherent.personas coherent.trimmed coherent.unprepared).append <|
    Knowledge.replay
      { Pipeline.new title with description, url, version, parameters, defaults, personas }
      coherent.sources coherent.derived

/-- **The commands of a coherent template rebuild it from a fresh one**, and leave the
pipeline as it is. -/
theorem Template.Coherent.replay {p : Pipeline} {t : Template} (pipeline : p.Coherent)
    (coherent : t.Coherent p) :
    Steps TemplateStep (Document.templateCommands Grammar.standard ⟨t, p⟩)
      ⟨{ Template.new t.title t.content t.result with
          description := t.description
          language := t.language
          dependents := t.dependents }, p⟩ ⟨t, p⟩ := by
  rw [templateCommands_standard]
  rcases t with ⟨name, title, description, execution, requirements, persona, knowledge, jokers,
    postprocessing, expectations, format, language, content, prepared, dependents, result⟩
  obtain rfl : name = Name.kebab title := coherent.named
  obtain rfl : prepared = none := coherent.unprepared
  let fresh : Template :=
    { Template.new title content result with description, language, dependents }
  exact (Execute.replay fresh p execution).append <|
    (Model.replay_template { fresh with execution } p coherent.demanding).append <|
    (Persona.replay_template { fresh with execution, requirements } coherent.voiced).append <|
    (Knowledge.replay_template { fresh with execution, requirements, persona } pipeline
      coherent.linked coherent.sources).append <|
    (Expect.replay { fresh with execution, requirements, persona, knowledge } p
      coherent.bounded format).append <|
    (Postprocess.replay
      { fresh with execution, requirements, persona, knowledge, expectations, format } p
      postprocessing).append <|
    Joker.replay
      { fresh with
        execution, requirements, persona, knowledge, expectations, format, postprocessing } p
      coherent.jokers

end PromptPipeline
