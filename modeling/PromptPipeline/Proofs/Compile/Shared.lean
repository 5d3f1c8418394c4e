/-
# Proofs.Compile.Shared -- what sections share while they are compiled

Sections are compiled one after the other into one pipeline.  The template that a section
makes does not depend on it (`Section.Makes.unique`).  A section without declarations can
fail because of the pipeline only if one of its sources has the name of another one that
is there.  So it compiles after any sections whose sources have names of their own next
to it (`compileTemplate_elsewhere`).
-/
import PromptPipeline.Proofs.Compile.Declarations
import Mathlib.Data.Set.Function

namespace PromptPipeline

set_option autoImplicit false

open Directive

/-! ## Sources -/

/-- What the sources of a pipeline are about. -/
def Pipeline.contents (p : Pipeline) : Set String := {a | ∃ s ∈ p.knowledge, s.content = a}

theorem Pipeline.Coherent.injOn_contents {p : Pipeline} (coherent : p.Coherent) :
    Set.InjOn Knowledge.sourceName p.contents := by
  rintro _ ⟨s, member, rfl⟩ _ ⟨s', member', rfl⟩ same
  rw [← (coherent.derived s member).1, ← (coherent.derived s' member').1] at same
  rw [List.inj_on_of_nodup_map coherent.sources member member' same]

/-- A pipeline whose sources are among some that have names of their own. -/
structure Pipeline.Within (sources : Set String) (p : Pipeline) : Prop where
  coherent : p.Coherent
  distinct : Set.InjOn Knowledge.sourceName sources
  part : p.contents ⊆ sources

namespace Directive.Knowledge

variable {source a : String} {p p' : Pipeline}

theorem mem_contents_of_register (registered : register source p = .ok p') :
    a ∈ p'.contents ↔ a ∈ p.contents ∨ source = a := by
  rcases register_ok_iff.1 registered with ⟨s, found, rfl, rfl⟩ | ⟨-, rfl⟩
  · have known : s.content ∈ p.contents := ⟨s, (mem_of_source?_eq_some found).1, rfl⟩
    constructor
    · exact .inl
    · rintro (member | rfl)
      · exact member
      · exact known
  · simp [Pipeline.contents, or_and_right, exists_or]

/-- A source is registered among those that do not take its name. -/
theorem exists_register {sources : Set String} (within : p.Within sources)
    (own : source ∈ sources) : ∃ p', register source p = .ok p' := by
  cases found : p.source? (sourceName source) with
  | none => exact ⟨_, register_ok_iff.2 (.inr ⟨found, rfl⟩)⟩
  | some s =>
      obtain ⟨member, named⟩ := mem_of_source?_eq_some found
      have alike : sourceName s.content = sourceName source :=
        (within.coherent.derived s member).1.symm.trans named
      have same := within.distinct (within.part ⟨s, member, rfl⟩) own alike
      exact ⟨p, register_ok_iff.2 (.inl ⟨s, found, same, rfl⟩)⟩

end Directive.Knowledge

/-! ## Commands -/

section

variable {c : Command} {cs : List Command} {d d' e e' : Draft} {a : String} {sources : Set String}

theorem TemplateStep.mem_contents (step : TemplateStep c d d') :
    a ∈ d'.pipeline.contents ↔ a ∈ d.pipeline.contents ∨ c = .knowledge a := by
  cases step with
  | knowledge registered =>
      rw [Knowledge.mem_contents_of_register registered, Command.knowledge.injEq]
  | parameter declared =>
      cases declared
      simp [Pipeline.contents]
  | _ => simp [Pipeline.contents]

/-- The template after a command depends only on the template before it. -/
theorem TemplateStep.template_unique (step : TemplateStep c d d') (other : TemplateStep c e e')
    (alike : d.template = e.template) : d'.template = e'.template := by
  obtain ⟨t, p⟩ := d
  obtain ⟨u, q⟩ := e
  obtain rfl : t = u := alike
  cases step with
  | modelVariant known =>
      cases other with
      | modelVariant known' =>
          obtain rfl := Option.some.inj (known.symm.trans known')
          rfl
  | expectAmount restricted =>
      cases other with
      | expectAmount restricted' =>
          obtain rfl := Except.ok.inj (restricted.symm.trans restricted')
          rfl
  | _ =>
      cases other
      rfl

/-- **A command that declares nothing does to a template what it does to it anywhere.** -/
theorem TemplateStep.elsewhere (step : TemplateStep c d d') (undeclaring : c.declared? = none)
    (own : ∀ a, c = .knowledge a → a ∈ sources) {p : Pipeline} (within : p.Within sources) :
    ∃ e, TemplateStep c ⟨d.template, p⟩ e := by
  cases step with
  | parameter => cases undeclaring
  | execute agrees => exact ⟨_, .execute agrees⟩
  | modelVariant known agrees => exact ⟨_, .modelVariant known agrees⟩
  | modelName agrees => exact ⟨_, .modelName agrees⟩
  | persona description agrees => exact ⟨_, .persona description agrees⟩
  | knowledge =>
      obtain ⟨p', registered⟩ := Knowledge.exists_register within (own _ rfl)
      exact ⟨_, .knowledge registered⟩
  | expectAmount restricted => exact ⟨_, .expectAmount restricted⟩
  | expectFormat agrees => exact ⟨_, .expectFormat agrees⟩
  | postprocess function => exact ⟨_, .postprocess function _⟩
  | joker name => exact ⟨_, .joker name _⟩

theorem TemplateStep.within (step : TemplateStep c d d')
    (own : ∀ a, c = .knowledge a → a ∈ sources) (within : d.pipeline.Within sources) :
    d'.pipeline.Within sources where
  coherent := step.coherent_pipeline within.coherent
  distinct := within.distinct
  part := fun a member => (step.mem_contents.1 member).elim (fun there => within.part there) (own a)

theorem Steps.mem_contents (run : Steps TemplateStep cs d d') :
    a ∈ d'.pipeline.contents ↔ a ∈ d.pipeline.contents ∨ .knowledge a ∈ cs := by
  induction run with
  | nil => simp
  | cons first _ ih => rw [ih, first.mem_contents, List.mem_cons, or_assoc, eq_comm]

theorem Steps.template_unique (run : Steps TemplateStep cs d d')
    (other : Steps TemplateStep cs e e') (alike : d.template = e.template) :
    d'.template = e'.template := by
  induction run generalizing e with
  | nil =>
      cases other
      exact alike
  | cons first _ ih =>
      cases other with
      | cons first' rest' => exact ih rest' (first.template_unique first' alike)

theorem Steps.elsewhere (run : Steps TemplateStep cs d d')
    (undeclaring : ∀ c ∈ cs, c.declared? = none) (own : ∀ a, .knowledge a ∈ cs → a ∈ sources)
    {p : Pipeline} (within : p.Within sources) :
    ∃ e, Steps TemplateStep cs ⟨d.template, p⟩ e := by
  induction run generalizing p with
  | nil => exact ⟨_, .nil _⟩
  | cons first _ ih =>
      obtain ⟨undeclaringFirst, undeclaringRest⟩ := List.forall_mem_cons.1 undeclaring
      have ownFirst : ∀ a, _ = Command.knowledge a → a ∈ sources :=
        fun a is => own a (is ▸ List.mem_cons_self)
      obtain ⟨m, step⟩ := first.elsewhere undeclaringFirst ownFirst within
      obtain ⟨e, later⟩ := ih undeclaringRest
        (fun a inside => own a (List.mem_cons_of_mem _ inside)) (step.within ownFirst within)
      rw [first.template_unique step rfl] at later
      exact ⟨e, .cons step later⟩

end

/-! ## Sections -/

/-- The sources that a section gives. -/
def Section.sources (s : Section) : Set String := {a | .knowledge a ∈ s.said .template}

/-- A section makes a template next to some pipeline. -/
def Section.Makes (s : Section) (t : Template) : Prop :=
  ∃ p d, (Compile.compileTemplate p s).value = .ok d ∧ d.template = t

/-- **A section makes one template**, whatever the pipeline. -/
theorem Section.Makes.unique {s : Section} {t u : Template} (makes : s.Makes t)
    (makes' : s.Makes u) : t = u := by
  obtain ⟨p, _, compiled, rfl⟩ := makes
  obtain ⟨p', _, compiled', rfl⟩ := makes'
  obtain ⟨t, draft, started, -, run, rfl⟩ := Compile.compileTemplate_iff_steps.1 compiled
  obtain ⟨t', draft', started', -, run', rfl⟩ := Compile.compileTemplate_iff_steps.1 compiled'
  obtain rfl : t = t' := Except.ok.inj (started.symm.trans started')
  have alike := run.template_unique run' rfl
  dsimp only
  rw [alike]

/-- The templates are a matter of the sections. -/
theorem Section.exists_made : ∃ made : Section → Template, ∀ s t, s.Makes t → made s = t :=
  ⟨fun s => Classical.epsilon s.Makes,
    fun _ t makes => (Classical.epsilon_spec ⟨t, makes⟩).unique makes⟩

namespace Compile

variable {s : Section} {sources : Set String}

/-- **A section without declarations compiles wherever none of its sources clashes.** -/
theorem compileTemplate_elsewhere {p : Pipeline} (makes : ∃ t, s.Makes t)
    (undeclaring : s.declarations .template = []) (own : s.sources ⊆ sources)
    (within : p.Within sources) : ∃ d, (compileTemplate p s).value = .ok d := by
  obtain ⟨_, _, _, compiled, -⟩ := makes
  obtain ⟨t, _, started, readable, run, -⟩ := compileTemplate_iff_steps.1 compiled
  have silent : ∀ c ∈ s.said .template, c.declared? = none :=
    List.filterMap_eq_nil_iff.1 undeclaring
  obtain ⟨draft, run'⟩ := run.elsewhere silent (fun _ inside => own inside) within
  exact ⟨_, compileTemplate_iff_steps.2 ⟨t, draft, started, readable, run', rfl⟩⟩

/-- A finished template joins the pipeline, and perhaps its result. -/
theorem add_pipeline (x : Progress) (t : Template) :
    (x.add t).pipeline
      = { x.pipeline with
          parameters := (x.add t).pipeline.parameters
          templates := x.pipeline.templates ++ [t] } := by
  unfold Progress.add
  dsimp only
  split
  · rfl
  · rfl

theorem contents_add (x : Progress) (t : Template) :
    (x.add t).pipeline.contents = x.pipeline.contents := by
  rw [add_pipeline]
  rfl

theorem mem_contents_addSection {x x' : Progress} (added : (addSection x s).value = .ok x')
    {a : String} : a ∈ x'.pipeline.contents ↔ a ∈ x.pipeline.contents ∨ a ∈ s.sources := by
  obtain ⟨_, compiled, rfl⟩ := addSection_ok_iff.1 added
  obtain ⟨_, draft, -, -, run, rfl⟩ := compileTemplate_iff_steps.1 compiled
  rw [contents_add]
  exact run.mem_contents

/-- **Sections without declarations compile in any order that they come in**, if their
sources have names of their own. -/
theorem exists_addSections {sections : List Section} {x : Progress}
    (makes : ∀ s ∈ sections, ∃ t, s.Makes t)
    (undeclaring : ∀ s ∈ sections, s.declarations .template = [])
    (own : ∀ s ∈ sections, s.sources ⊆ sources) (established : x.pipeline.Established)
    (distinct : Set.InjOn Knowledge.sourceName sources) (part : x.pipeline.contents ⊆ sources) :
    ∃ x', (sections.foldlM addSection x).value = .ok x' := by
  induction sections generalizing x with
  | nil => exact ⟨x, Logged.foldlM_nil_ok_iff.2 rfl⟩
  | cons s sections ih =>
      obtain ⟨makesFirst, makesRest⟩ := List.forall_mem_cons.1 makes
      obtain ⟨undeclaringFirst, undeclaringRest⟩ := List.forall_mem_cons.1 undeclaring
      obtain ⟨ownFirst, ownRest⟩ := List.forall_mem_cons.1 own
      obtain ⟨d, compiled⟩ := compileTemplate_elsewhere makesFirst undeclaringFirst ownFirst
        ⟨established.coherent, distinct, part⟩
      have added := addSection_ok_iff.2 ⟨d, compiled, rfl⟩
      have partRest := fun a member => (mem_contents_addSection (a := a) added).1 member
      obtain ⟨x', rest⟩ := ih makesRest undeclaringRest ownRest
        (established_addSection added established)
        fun a member => (partRest a member).elim (@part a) (@ownFirst a)
      exact ⟨x', Logged.foldlM_cons_ok_iff.2 ⟨_, added, rest⟩⟩

end Compile

end PromptPipeline
