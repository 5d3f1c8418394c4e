/-
# Proofs.Compile.Section -- what the lines of a section say

A section whose lines are all read says a list of commands.  Compiling it applies them one
after the other (`compileHead_iff_steps`, `compileTemplate_iff_steps`), and a document is
compiled section by section, so what one section adds to an account of the sections before
it holds at the end (`addSections_keep`).
-/
import PromptPipeline.Proofs.Compile.Run
import PromptPipeline.Proofs.Edit.Step

namespace PromptPipeline

set_option autoImplicit false

/-! ## Commands -/

/-- The commands that the lines of a section are read as. -/
def Section.said (place : Place) (s : Section) : List Command :=
  s.commands.filterMap fun line => (Grammar.standard.parse line.text place).toOption

/-- Every line of the section is read. -/
def Section.Readable (place : Place) (s : Section) : Prop :=
  ∀ line ∈ s.commands, ∃ c, Grammar.standard.parse line.text place = .ok c

/-- The parameter that a section results in, if it names one. -/
def Section.produces? (s : Section) : Option String :=
  s.result.bind fun raw => (Name.validate raw).toOption

namespace Compile

variable {options : CompileOptions} {p p' : Pipeline} {s : Section}

/-- Lines are applied as the commands that they are read as. -/
theorem applyLines_ok_iff {σ : Type} {place : Place} {part : Part} {apply : Command → Edit σ}
    {step : Command → σ → σ → Prop} (does : ∀ c x x', (apply c x).value = .ok x' ↔ step c x x')
    {x x' : σ} :
    (s.commands.foldlM (applyLine place part apply) x).value = .ok x'
      ↔ s.Readable place ∧ Steps step (s.said place) x x' := by
  unfold Section.Readable Section.said
  generalize s.commands = lines
  induction lines generalizing x with
  | nil =>
      rw [Logged.foldlM_nil_ok_iff]
      constructor
      · rintro rfl
        exact ⟨(fun _ h => nomatch h), .nil x⟩
      · rintro ⟨-, run⟩
        cases run
        rfl
  | cons line lines ih =>
      rw [Logged.foldlM_cons_ok_iff, List.forall_mem_cons]
      constructor
      · rintro ⟨m, first, rest⟩
        obtain ⟨c, read, applied⟩ := applyLine_ok_iff.1 first
        obtain ⟨readable, run⟩ := ih.1 rest
        rw [List.filterMap_cons, read]
        exact ⟨⟨⟨c, rfl⟩, readable⟩, .cons ((does c x m).1 applied) run⟩
      · rintro ⟨⟨⟨c, read⟩, readable⟩, run⟩
        rw [List.filterMap_cons, read] at run
        cases run with
        | cons first rest =>
            exact ⟨_, applyLine_ok_iff.2 ⟨c, read, (does c x _).2 first⟩, ih.2 ⟨readable, rest⟩⟩

/-- A section of which every line is read says what is read. -/
theorem said_of_forall₂ {place : Place} {commands : List Command}
    (read : List.Forall₂ (fun (line : CommandLine) c =>
      Grammar.standard.parse line.text place = .ok c) s.commands commands) :
    s.Readable place ∧ s.said place = commands := by
  unfold Section.Readable Section.said
  generalize s.commands = lines at read ⊢
  induction read with
  | nil => exact ⟨(fun _ h => nomatch h), rfl⟩
  | cons first _ ih =>
      obtain ⟨readable, commands⟩ := ih
      rw [List.filterMap_cons, first, commands]
      exact ⟨List.forall_mem_cons.2 ⟨⟨_, first⟩, readable⟩, rfl⟩

/-- **A head applies the commands that it says.** -/
theorem compileHead_iff_steps {head : Section} :
    (compileHead options head p).value = .ok p'
      ↔ (head.code = [] ∨ options.allowHeadCode = true)
        ∧ head.Readable .head ∧ Steps HeadStep (head.said .head) p p' := by
  have does : ∀ c p p', (Grammar.standard.applyToHead c p).value = .ok p' ↔ HeadStep c p p' :=
    fun _ _ _ => applyToHead_ok_iff
  rw [compileHead_ok_iff, applyLines_ok_iff does]

/-- **A section applies the commands that it says to a fresh template.** -/
theorem compileTemplate_iff_steps {d : Draft} :
    (compileTemplate p s).value = .ok d
      ↔ ∃ t draft, startTemplate s = .ok t ∧ s.Readable .template
        ∧ Steps TemplateStep (s.said .template) ⟨t, p⟩ draft
        ∧ { draft with template.dependents := dependents draft.template } = d := by
  have does : ∀ c d d', (Grammar.standard.applyToTemplate c d).value = .ok d'
      ↔ TemplateStep c d d' := fun _ _ _ => applyToTemplate_ok_iff
  rw [compileTemplate_ok_iff]
  refine exists_congr fun t => exists_congr fun draft => and_congr_right fun _ => ?_
  rw [applyLines_ok_iff does, and_assoc]

theorem produces?_of_startTemplate {t : Template} (started : startTemplate s = .ok t) :
    s.produces? = some t.result := by
  obtain ⟨block, raw, result, -, given, valid, rfl⟩ := startTemplate_ok_iff.1 started
  rw [Section.produces?, given, Option.bind_some, valid]
  rfl

/-! ## Sections one after the other -/

/-- What every section adds to an account of those before it, all of them add. -/
theorem addSections_keep {I : List Section → Progress → Prop}
    (step : ∀ done s x x', (addSection x s).value = .ok x' → I done x → I (done ++ [s]) x') :
    ∀ {sections done : List Section} {x x' : Progress},
      (sections.foldlM addSection x).value = .ok x' → I done x → I (done ++ sections) x'
  | [], done, _, _, ran, kept => by
      rw [List.append_nil, ← Logged.foldlM_nil_ok_iff.1 ran]
      exact kept
  | s :: sections, done, _, _, ran, kept => by
      obtain ⟨m, first, rest⟩ := Logged.foldlM_cons_ok_iff.1 ran
      have all := addSections_keep step rest (step done s _ _ first kept)
      rwa [List.append_assoc] at all

end Compile

end PromptPipeline
