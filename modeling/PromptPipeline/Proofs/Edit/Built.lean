/-
# Proofs.Edit.Built -- what edits build can be rebuilt from the commands taken back

`Built` are the states that are reached from an empty pipeline: commands are applied
to the head, templates are started, described, filled by commands in any order, and
put into the pipeline.  Every state on the way is coherent, so the commands that are
taken back from it rebuild the head and each template.
-/
import PromptPipeline.Proofs.Edit.Replay

namespace PromptPipeline

set_option autoImplicit false

/-! ## Building -/

/-- A pipeline that edits built from an empty one, and the templates under construction. -/
inductive Built (title : String) (description : Option String) : Pipeline → List Template → Prop
  | empty : Built title description { Pipeline.new title with description } []
  | head {p p' : Pipeline} {drafts : List Template} {c : Command} :
      Built title description p drafts → (Grammar.standard.applyToHead c p).value = .ok p' →
      Built title description p' drafts
  | start {p : Pipeline} {drafts : List Template} (name content result : String) :
      Built title description p drafts →
      Built title description p (drafts ++ [Template.new name content result])
  | describe {p : Pipeline} {before after : List Template} {t : Template}
      (prose language : Option String) (dependents : NameSet) :
      Built title description p (before ++ t :: after) →
      Built title description p
        (before ++ { t with description := prose, language, dependents } :: after)
  | fill {p p' : Pipeline} {before after : List Template} {t t' : Template} {c : Command} :
      Built title description p (before ++ t :: after) →
      (Grammar.standard.applyToTemplate c ⟨t, p⟩).value = .ok ⟨t', p'⟩ →
      Built title description p' (before ++ t' :: after)
  | push {p : Pipeline} {before after : List Template} {t : Template} :
      Built title description p (before ++ t :: after) →
      Built title description { p with templates := p.templates ++ [t] } (before ++ after)

/-- The head of a pipeline, rebuilt on a fresh one by the commands taken back from it. -/
def Pipeline.rebuilt (p : Pipeline) : Logged (Refused Pipeline) Pipeline :=
  (Document.headCommands Grammar.standard p).foldlM
    (fun p c => Grammar.standard.applyToHead c p)
    { Pipeline.new p.title with description := p.description }

/-- A template, rebuilt on a fresh one by the commands taken back from it. -/
def Template.rebuilt (t : Template) (p : Pipeline) : Logged (Refused Draft) Draft :=
  (Document.templateCommands Grammar.standard ⟨t, p⟩).foldlM
    (fun d c => Grammar.standard.applyToTemplate c d)
    ⟨{ Template.new t.title t.content t.result with
        description := t.description
        language := t.language
        dependents := t.dependents }, p⟩

/-! ## What is built is coherent -/

/-- A pipeline is coherent with all its templates and those under construction. -/
structure Workshop (p : Pipeline) (drafts : List Template) : Prop where
  pipeline : p.Coherent
  templates : ∀ t ∈ p.templates, t.Coherent p
  drafts : ∀ t ∈ drafts, t.Coherent p

namespace Workshop

variable {p p' : Pipeline} {drafts before after : List Template} {t t' : Template} {c : Command}

/-- All templates stay coherent while the pipeline grows. -/
theorem grows (workshop : Workshop p drafts) (coherent : p'.Coherent) (grows : p.Grows p') :
    Workshop p' drafts where
  pipeline := coherent
  templates := fun t ht => (workshop.templates t (grows.templates ▸ ht)).grows grows
  drafts := fun t ht => (workshop.drafts t ht).grows grows

/-- One draft may give way to another coherent one. -/
theorem replace (workshop : Workshop p (before ++ t :: after)) (coherent : t'.Coherent p) :
    Workshop p (before ++ t' :: after) :=
  { workshop with
    drafts := by
      intro x hx
      rcases List.mem_append.1 hx with hx | hx
      · exact workshop.drafts x (List.mem_append_left _ hx)
      · rcases List.mem_cons.1 hx with rfl | hx
        · exact coherent
        · exact workshop.drafts x (List.mem_append_right _ (List.mem_cons_of_mem _ hx)) }

theorem draft (workshop : Workshop p (before ++ t :: after)) : t.Coherent p :=
  workshop.drafts t (List.mem_append_right _ List.mem_cons_self)

theorem head (workshop : Workshop p drafts) (step : HeadStep c p p') : Workshop p' drafts :=
  workshop.grows (step.coherent workshop.pipeline) step.grows

theorem fill (workshop : Workshop p (before ++ t :: after))
    (step : TemplateStep c ⟨t, p⟩ ⟨t', p'⟩) : Workshop p' (before ++ t' :: after) :=
  (workshop.grows (step.coherent_pipeline workshop.pipeline) step.grows).replace
    (step.coherent workshop.draft)

theorem push (workshop : Workshop p (before ++ t :: after)) :
    Workshop { p with templates := p.templates ++ [t] } (before ++ after) where
  pipeline := { workshop.pipeline with }
  templates := by
    intro x hx
    have all : ∀ x ∈ p.templates ++ [t], x.Coherent p :=
      List.forall_mem_append.2 ⟨workshop.templates, List.forall_mem_singleton.2 workshop.draft⟩
    exact { all x hx with }
  drafts := by
    intro x hx
    have kept : x ∈ before ++ t :: after := by
      rcases List.mem_append.1 hx with hx | hx
      · exact List.mem_append_left _ hx
      · exact List.mem_append_right _ (List.mem_cons_of_mem _ hx)
    exact { workshop.drafts x kept with }

end Workshop

theorem Built.workshop {title : String} {description : Option String} {p : Pipeline}
    {drafts : List Template} (built : Built title description p drafts) : Workshop p drafts := by
  induction built with
  | empty =>
      refine ⟨Pipeline.coherent_new title description, fun t ht => ?_, fun t ht => ?_⟩
      · cases ht
      · cases ht
  | head _ applied ih => exact ih.head (applyToHead_ok_iff.1 applied)
  | @start p drafts name content result _ ih =>
      have new := Template.coherent_new p name content result
      exact { ih with
        drafts := List.forall_mem_append.2 ⟨ih.drafts, List.forall_mem_singleton.2 new⟩ }
  | describe prose language dependents _ ih =>
      exact ih.replace (ih.draft.describe prose language dependents)
  | fill _ applied ih => exact ih.fill (applyToTemplate_ok_iff.1 applied)
  | push _ ih => exact ih.push

/-! ## Taking undoes applying -/

/-- **The commands taken back from what was built rebuild it**: the head on a fresh
pipeline, and every template on a fresh one next to the pipeline, which stays as it is. -/
theorem Built.rebuilt {title : String} {description : Option String} {p : Pipeline}
    {drafts : List Template} (built : Built title description p drafts) :
    p.rebuilt.value = .ok { p with templates := [] }
      ∧ ∀ t ∈ p.templates, (t.rebuilt p).value = .ok ⟨t, p⟩ := by
  have workshop := built.workshop
  constructor
  · unfold Pipeline.rebuilt
    refine (Steps.foldlM_ok_iff fun _ _ _ => ?_).2 workshop.pipeline.replay
    exact applyToHead_ok_iff
  · intro t ht
    unfold Template.rebuilt
    refine (Steps.foldlM_ok_iff fun _ _ _ => ?_).2
      ((workshop.templates t ht).replay workshop.pipeline)
    exact applyToTemplate_ok_iff

/-- A template with a persona and a bound, built and rebuilt. -/
theorem rebuilt_letter :
    let letter : Template :=
      { Template.new "Write" "Dear Bob" "letter" with
        persona := some "Jane"
        expectations := { words := some ⟨some 9, some 9⟩ } }
    let p : Pipeline :=
      { title := "Letters", version := some "1.0.0", personas := [{ name := "Jane" }],
        templates := [letter] }
    Built "Letters" none p []
      ∧ p.rebuilt.value = .ok { p with templates := [] }
      ∧ ∀ t ∈ p.templates, (t.rebuilt p).value = .ok ⟨t, p⟩ := by
  intro letter p
  have jane : Directive.Persona.register "Jane" ((none : Option String).getD "") []
      = [{ name := "Jane" }] := by
    simp only [Directive.Persona.register, Option.getD_none, Text.trim_empty]
  have versioned :
      Built "Letters" none { Pipeline.new "Letters" with version := some "1.0.0" } [] :=
    .head .empty (applyToHead_ok_iff.2 (.version "1.0.0" _))
  have started := versioned.start "Write" "Dear Bob" "letter"
  have spoken := started.fill
    (applyToTemplate_ok_iff.2 (@TemplateStep.persona "Jane" none _ fun name given =>
      (Option.some_ne_none name given.symm).elim))
  have bounded := spoken.fill
    (applyToTemplate_ok_iff.2 (@TemplateStep.expectAmount .exactly .words 9 _ ⟨some 9, some 9⟩ rfl))
  dsimp only [Pipeline.new] at bounded
  rw [jane] at bounded
  have built : Built "Letters" none p [] := bounded.push
  exact ⟨built, built.rebuilt⟩

end PromptPipeline
