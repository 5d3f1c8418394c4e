/-
# Proofs.Compile.Reordering -- the order of the sections does not matter

Sections that declare nothing may change places: whether the document compiles, the
templates up to the same change of places, and the parameters up to their order stay the
same (`compile_reordered`).  `Accounted` says what there is after some sections in terms
of the head and of each section by itself: the templates that they make and the sources
that they give.  Descriptions of personas do depend on the order, but no check asks for
them.
-/
import PromptPipeline.Proofs.Compile.Shared
import PromptPipeline.Proofs.Validation.Reordering

namespace PromptPipeline

set_option autoImplicit false

open Directive

/-- One document has the title, the head and the sections of another one, in some order;
the lines where they stand do not count. -/
structure Document.Reorders (d d' : Document) : Prop where
  title : d.title = d'.title
  head : d.head.bare = d'.head.bare
  templates : (d.templates.map Section.bare).Perm (d'.templates.map Section.bare)

/-- No section declares a parameter. -/
def Document.Undeclaring (d : Document) : Prop :=
  ∀ s ∈ d.templates, s.declarations .template = []

/-- A template leaves the URL and the version to the head. -/
theorem TemplateStep.published {c : Command} {d d' : Draft} (step : TemplateStep c d d') :
    d'.pipeline.url = d.pipeline.url ∧ d'.pipeline.version = d.pipeline.version := by
  cases step with
  | parameter declared =>
      cases declared
      exact ⟨rfl, rfl⟩
  | knowledge registered =>
      rcases Knowledge.register_ok_iff.1 registered with ⟨_, -, -, rfl⟩ | ⟨-, rfl⟩
      · exact ⟨rfl, rfl⟩
      · exact ⟨rfl, rfl⟩
  | _ => exact ⟨rfl, rfl⟩

namespace Compile

/-! ## What sections leave -/

/-- What there is after some sections, next to what the head left. -/
structure Accounted (p : Pipeline) (done : List Section) (x : Progress) : Prop where
  url : x.pipeline.url = p.url
  version : x.pipeline.version = p.version
  contents : ∀ a, a ∈ x.pipeline.contents ↔ a ∈ p.contents ∨ ∃ s ∈ done, a ∈ s.sources
  templates : List.Forall₂ Section.Makes done x.pipeline.templates
  implicit : ∀ name ∈ x.implicit, ∃ t ∈ x.pipeline.templates, t.result = name

namespace Accounted

variable {p : Pipeline} {done : List Section} {x : Progress}

/-- Every section has made a template. -/
theorem makes (accounted : Accounted p done x) : ∀ s ∈ done, ∃ t, s.Makes t := by
  have made := accounted.templates
  clear accounted
  generalize x.pipeline.templates = ts at made
  induction made with
  | nil => exact fun _ h => nomatch h
  | cons first _ ih => exact List.forall_mem_cons.2 ⟨⟨_, first⟩, ih⟩

/-- The templates are made by the sections in their order. -/
theorem map_made (accounted : Accounted p done x) {made : Section → Template}
    (is : ∀ s t, s.Makes t → made s = t) : x.pipeline.templates = done.map made := by
  have makes := accounted.templates
  clear accounted
  generalize x.pipeline.templates = ts at makes ⊢
  induction makes with
  | nil => rfl
  | cons first _ ih => rw [List.map_cons, is _ _ first, ← ih]

end Accounted

theorem accounted_compileHead {options : CompileOptions} {head : Section} {title : String}
    {description : Option String} {p : Pipeline}
    (compiled : (compileHead options head { Pipeline.new title with description }).value = .ok p) :
    Accounted p [] ⟨p, []⟩ := by
  obtain ⟨-, -, run⟩ := compileHead_iff_steps.1 compiled
  have none : p.templates = [] :=
    run.kept Pipeline.templates fun _ _ _ step => step.grows.templates
  exact {
    url := rfl
    version := rfl
    contents := by simp
    templates := none ▸ .nil
    implicit := fun _ h => nomatch h }

theorem mem_implicit_add {x : Progress} {t : Template} {name : String}
    (member : name ∈ (x.add t).implicit) : name ∈ x.implicit ∨ t.result = name := by
  unfold Progress.add at member
  dsimp only at member
  split at member
  · exact .inl member
  · exact (List.mem_append.1 member).imp_right fun last => (List.mem_singleton.1 last).symm

theorem accounted_addSection {p : Pipeline} {done : List Section} {s : Section} {x x' : Progress}
    (added : (addSection x s).value = .ok x') (accounted : Accounted p done x) :
    Accounted p (done ++ [s]) x' := by
  have contents := fun a => mem_contents_addSection (a := a) added
  obtain ⟨draft, compiled, rfl⟩ := addSection_ok_iff.1 added
  have makes : s.Makes draft.template := ⟨_, _, compiled, rfl⟩
  obtain ⟨_, before, -, -, run, rfl⟩ := compileTemplate_iff_steps.1 compiled
  have url := run.kept (fun d => d.pipeline.url) fun _ _ _ step => step.published.1
  have version := run.kept (fun d => d.pipeline.version) fun _ _ _ step => step.published.2
  have templates := run.kept (fun d => d.pipeline.templates) fun _ _ _ step => step.grows.templates
  exact {
    url := (congrArg Pipeline.url (add_pipeline _ _)).trans (url.trans accounted.url)
    version :=
      (congrArg Pipeline.version (add_pipeline _ _)).trans (version.trans accounted.version)
    contents := by
      intro a
      rw [contents a, accounted.contents]
      simp [or_assoc, or_and_right, exists_or]
    templates := by
      rw [add_pipeline]
      dsimp only
      rw [templates]
      exact List.rel_append accounted.templates (.cons makes .nil)
    implicit := by
      intro name member
      rw [add_pipeline]
      dsimp only
      rw [templates]
      rcases mem_implicit_add member with earlier | last
      · obtain ⟨t, inside, result⟩ := accounted.implicit name earlier
        exact ⟨t, List.mem_append_left _ inside, result⟩
      · exact ⟨_, List.mem_append_right _ List.mem_cons_self, last⟩ }

/-! ## Parameters -/

variable {head : Section} {done done' : List Section} {p : Pipeline} {x x' : Progress}

theorem declarations_of_undeclaring (undeclaring : ∀ s ∈ done, s.declarations .template = []) :
    declarations head done = head.declarations .head := by
  rw [declarations, List.flatMap_eq_nil_iff.2 undeclaring, List.append_nil]

/-- The results that nobody has declared are those that the head does not declare. -/
theorem mem_implicit_iff (undeclaring : ∀ s ∈ done, s.declarations .template = [])
    (listed : Listed head done x) (accounted : Accounted p done x) {name : String} :
    name ∈ x.implicit
      ↔ (∃ t ∈ x.pipeline.templates, t.result = name)
        ∧ ∀ q ∈ head.declarations .head, q.name ≠ name := by
  have fresh := listed.fresh
  have origin := listed.origin
  rw [declarations_of_undeclaring undeclaring] at fresh origin
  constructor
  · intro implicit
    exact ⟨accounted.implicit name implicit, fresh name implicit⟩
  · rintro ⟨⟨t, member, rfl⟩, free⟩
    obtain ⟨q, declared, named⟩ := (listed.established.templates t member).declared
    rcases origin q declared with head | ⟨-, implicit⟩
    · exact absurd named (free q head)
    · exact named ▸ implicit

theorem mem_parameters_iff (undeclaring : ∀ s ∈ done, s.declarations .template = [])
    (listed : Listed head done x) {q : Parameter} :
    q ∈ x.pipeline.parameters
      ↔ q ∈ head.declarations .head ∨ q = { name := q.name } ∧ q.name ∈ x.implicit := by
  have declared := listed.declared
  have origin := listed.origin
  rw [declarations_of_undeclaring undeclaring] at declared origin
  constructor
  · exact origin q
  · rintro (head | ⟨plain, implicit⟩)
    · exact declared q head
    · exact plain ▸ listed.implicit q.name implicit

/-- The outcome of sections in another order. -/
structure Rearranged (x x' : Progress) : Prop where
  templates : x.pipeline.templates.Perm x'.pipeline.templates
  parameters : x.pipeline.parameters.Perm x'.pipeline.parameters
  implicit : ∀ name, name ∈ x.implicit ↔ name ∈ x'.implicit

theorem rearranged_of_templates (undeclaring : ∀ s ∈ done, s.declarations .template = [])
    (undeclaring' : ∀ s ∈ done', s.declarations .template = []) (listed : Listed head done x)
    (listed' : Listed head done' x') (accounted : Accounted p done x)
    (accounted' : Accounted p done' x')
    (templates : x.pipeline.templates.Perm x'.pipeline.templates) : Rearranged x x' := by
  have implicit : ∀ name, name ∈ x.implicit ↔ name ∈ x'.implicit := by
    intro name
    simp only [mem_implicit_iff undeclaring listed accounted,
      mem_implicit_iff undeclaring' listed' accounted', templates.mem_iff]
  refine ⟨templates, ?_, implicit⟩
  have once := listed.established.coherent.parameters.of_map
  have once' := listed'.established.coherent.parameters.of_map
  refine (List.perm_ext_iff_of_nodup once once').2 fun q => ?_
  rw [mem_parameters_iff undeclaring listed, mem_parameters_iff undeclaring' listed', implicit]

/-- Linking asks for members only. -/
theorem Rearranged.link (rearranged : Rearranged x x') :
    x.link.parameters.Perm x'.link.parameters := by
  have implicit : ∀ name, x.implicit.contains name = x'.implicit.contains name := by
    intro name
    rw [Bool.eq_iff_iff, List.contains_iff_mem, List.contains_iff_mem]
    exact rearranged.implicit name
  have consumed : ∀ name, isConsumed x.pipeline name = isConsumed x'.pipeline name :=
    fun name => rearranged.templates.any_eq
  unfold Progress.link
  dsimp only
  simp only [implicit, consumed]
  exact rearranged.parameters.map _

/-! ## Documents -/

variable {options : CompileOptions} {d d' : Document} {made : Section → Template}

theorem accounted_addSections (head : (compileHead options d.head
      { Pipeline.new (d.title.getD "") with description := d.head.description }).value = .ok p)
    (sections : (d.templates.foldlM addSection ⟨p, []⟩).value = .ok x) :
    Accounted p d.templates x :=
  addSections_keep (fun _ _ _ _ => accounted_addSection) sections (accounted_compileHead head)

/-- **The templates of a pipeline are those that its sections make.** -/
theorem templates_ofDocument (is : ∀ s t, s.Makes t → made s = t)
    (compiled : (ofDocument options d).value = .ok p) : p.templates = d.templates.map made := by
  obtain ⟨p₀, x, head, sections, -, rfl⟩ := ofDocument_ok_iff.1 compiled
  exact (accounted_addSections head sections).map_made is

/-- **A document compiles alike in every order of its sections.** -/
theorem ofDocument_reordered (title : d.title = d'.title) (same : d.head = d'.head)
    (perm : d.templates.Perm d'.templates) (undeclaring : d.Undeclaring)
    (compiled : (ofDocument options d).value = .ok p) :
    ∃ p', (ofDocument options d').value = .ok p' ∧ p.parameters.Perm p'.parameters := by
  obtain ⟨p₀, x, head, sections, valid, rfl⟩ := ofDocument_ok_iff.1 compiled
  have undeclaring' : d'.Undeclaring := fun s member => undeclaring s (perm.mem_iff.2 member)
  have accounted := accounted_addSections head sections
  have listed : Listed d.head d.templates x :=
    addSections_keep (fun _ _ _ _ => listed_addSection) sections (listed_compileHead head)
  -- All sources of the sections are there at the end, so their names do not clash.
  have own : ∀ s ∈ d'.templates, s.sources ⊆ x.pipeline.contents :=
    fun s member a inside => (accounted.contents a).2 (.inr ⟨s, perm.mem_iff.2 member, inside⟩)
  have part : p₀.contents ⊆ x.pipeline.contents :=
    fun a inside => (accounted.contents a).2 (.inl inside)
  obtain ⟨x', sections'⟩ := exists_addSections (x := ⟨p₀, []⟩)
    (fun s member => accounted.makes s (perm.mem_iff.2 member)) undeclaring' own
    (established_compileHead head) listed.established.coherent.injOn_contents part
  rw [title, same] at head
  have accounted' := accounted_addSections head sections'
  have listed' : Listed d'.head d'.templates x' :=
    addSections_keep (fun _ _ _ _ => listed_addSection) sections' (listed_compileHead head)
  have templates : x.pipeline.templates.Perm x'.pipeline.templates := by
    obtain ⟨made, is⟩ := Section.exists_made
    rw [accounted.map_made is, accounted'.map_made is]
    exact perm.map made
  have rearranged :=
    rearranged_of_templates undeclaring undeclaring' (same ▸ listed) listed' accounted accounted'
      templates
  have published : x'.link.url = x.link.url ∧ x'.link.version = x.link.version :=
    ⟨accounted'.url.trans accounted.url.symm, accounted'.version.trans accounted.version.symm⟩
  refine ⟨x'.link, ofDocument_ok_iff.2 ⟨p₀, x', head, sections', fun checked => ?_, rfl⟩,
    rearranged.link⟩
  have executable := Validation.violations_eq_nil_iff.1
    (Validation.validate_eq_ok_iff_violations.1 (valid checked))
  exact Validation.validate_eq_ok_iff_violations.2 (Validation.violations_eq_nil_iff.2
    (executable.reorder (established_link listed'.established).grounded published.1 published.2
      rearranged.link rearranged.templates))

end Compile

/-- The lines of a section do not count for what it declares. -/
theorem Section.declarations_bare {place : Place} {s : Section} :
    s.bare.declarations place = s.declarations place := by
  unfold Section.declarations Section.said Section.bare
  rw [List.filterMap_map]
  rfl

namespace Document

variable {d d' : Document}

theorem Reorders.symm (reorders : d.Reorders d') : d'.Reorders d :=
  ⟨reorders.title.symm, reorders.head.symm, reorders.templates.symm⟩

theorem undeclaring_bare : d.bare.Undeclaring ↔ d.Undeclaring := by
  unfold Undeclaring Document.bare
  rw [List.forall_mem_map]
  simp only [Section.declarations_bare]

theorem Reorders.undeclaring (reorders : d.Reorders d') (undeclaring : d.Undeclaring) :
    d'.Undeclaring :=
  undeclaring_bare.1 fun s member =>
    undeclaring_bare.2 undeclaring s (reorders.templates.mem_iff.2 member)

end Document

variable {options : CompileOptions} {source source' : String} {d d' : Document} {p : Pipeline}

theorem compile_bare_iff (read : Document.ofSource source = .ok d) :
    (compile options source).value = .ok p ↔ (Compile.ofDocument options d.bare).value = .ok p := by
  rw [compile_ok_iff, read, Compile.ofDocument_bare]
  simp

/-- A source compiles if another one with the same sections does. -/
theorem compile_of_reorders (read : Document.ofSource source = .ok d)
    (read' : Document.ofSource source' = .ok d') (reorders : d.Reorders d')
    (undeclaring : d.Undeclaring) (compiled : (compile options source).value = .ok p) :
    ∃ p', (compile options source').value = .ok p' ∧ p.parameters.Perm p'.parameters := by
  have undeclaring := Document.undeclaring_bare.2 undeclaring
  obtain ⟨p', compiled', parameters⟩ :=
    @Compile.ofDocument_reordered _ _ d.bare d'.bare reorders.title reorders.head
      reorders.templates undeclaring ((compile_bare_iff read).1 compiled)
  exact ⟨p', (compile_bare_iff read').2 compiled', parameters⟩

/-- **The order of sections that declare nothing does not matter.**  With the same head, two
sources compile or are refused together.  Where they compile, the same section has made the
same template in both, and the parameters are the same up to their order. -/
theorem compile_reordered (read : Document.ofSource source = .ok d)
    (read' : Document.ofSource source' = .ok d') (reorders : d.Reorders d')
    (undeclaring : d.Undeclaring) :
    ((∃ p, (compile options source).value = .ok p) ↔ ∃ p', (compile options source').value = .ok p')
      ∧ ∀ p p', (compile options source).value = .ok p → (compile options source').value = .ok p' →
        (∃ made : Section → Template,
          p.templates = d.templates.map (fun s => made s.bare)
            ∧ p'.templates = d'.templates.map fun s => made s.bare)
          ∧ p.templates.Perm p'.templates ∧ p.parameters.Perm p'.parameters := by
  constructor
  · constructor
    · rintro ⟨p, compiled⟩
      obtain ⟨p', compiled', -⟩ := compile_of_reorders read read' reorders undeclaring compiled
      exact ⟨p', compiled'⟩
    · rintro ⟨p', compiled'⟩
      obtain ⟨p, compiled, -⟩ := compile_of_reorders read' read reorders.symm
        (reorders.undeclaring undeclaring) compiled'
      exact ⟨p, compiled⟩
  · intro p p' compiled compiled'
    obtain ⟨made, is⟩ := Section.exists_made
    have templates := Compile.templates_ofDocument is ((compile_bare_iff read).1 compiled)
    have templates' := Compile.templates_ofDocument is ((compile_bare_iff read').1 compiled')
    refine ⟨⟨made, ?_, ?_⟩, ?_, ?_⟩
    · rw [templates, Document.bare, List.map_map]
      rfl
    · rw [templates', Document.bare, List.map_map]
      rfl
    · rw [templates, templates']
      exact reorders.templates.map made
    · obtain ⟨found, again, parameters⟩ :=
        compile_of_reorders read read' reorders undeclaring compiled
      obtain rfl : found = p' := Except.ok.inj (again.symm.trans compiled')
      exact parameters

/-- The template that needs a result may stand before the one that gives it. -/
theorem compile_reordered_swap :
    let first (line : Nat) : Section :=
      { title := "P", line, code := [⟨none, "{a}", line + 1⟩], result := some "{b}" }
    let second (line : Nat) : Section :=
      { title := "Q", line, commands := [⟨"KNOWLEDGE ./k.md", line + 1⟩]
        code := [⟨none, "{b}", line + 2⟩], result := some "{c}" }
    let head : Section := { commands := [⟨"INPUT PARAMETER {a}", 2⟩] }
    let d : Document := ⟨some "T", head, [first 3, second 8]⟩
    let d' : Document := ⟨some "T", head, [second 3, first 9]⟩
    let before := "# T\n- INPUT PARAMETER {a}\n"
    let text := "## P\n```\n{a}\n```\n-> {b}\n"
    let text' := "## Q\n- KNOWLEDGE ./k.md\n```\n{b}\n```\n-> {c}\n"
    let a : Parameter := { name := "a", isInput := true }
    let b : Parameter := { name := "b" }
    let c : Parameter := { name := "c", isOutput := true }
    let t : Template := { Template.new "P" "{a}" "b" with dependents := .ofList ["a"] }
    let t' : Template :=
      { Template.new "Q" "{b}" "c" with
        dependents := .ofList ["b"], knowledge := ["source-k-md"] }
    let p : Pipeline :=
      { title := "T", parameters := [a, b, c], templates := [t, t']
        knowledge := [{ name := "source-k-md", content := "./k.md" }] }
    Document.ofSource (before ++ text ++ text') = .ok d
      ∧ Document.ofSource (before ++ text' ++ text) = .ok d' ∧ d.Reorders d' ∧ d.Undeclaring
      ∧ (compile {} (before ++ text ++ text')).value = .ok p
      ∧ ∃ p', (compile {} (before ++ text' ++ text)).value = .ok p'
        ∧ [t, t'].Perm p'.templates ∧ [a, b, c].Perm p'.parameters := by
  intro first second head d d' before text text' a b c t t' p
  have read : Document.ofSource (before ++ text ++ text') = .ok d := by decide +kernel
  have read' : Document.ofSource (before ++ text' ++ text) = .ok d' := by decide +kernel
  have reorders : d.Reorders d' := ⟨rfl, rfl, .swap _ _ _⟩
  have undeclaring : d.Undeclaring :=
    List.forall_mem_cons.2 ⟨rfl, List.forall_mem_singleton.2 (by decide +kernel)⟩
  have compiled : (compile {} (before ++ text ++ text')).value = .ok p := by decide +kernel
  obtain ⟨together, alike⟩ := compile_reordered read read' reorders undeclaring
  obtain ⟨p', compiled'⟩ := together.1 ⟨p, compiled⟩
  obtain ⟨-, templates, parameters⟩ := alike p p' compiled compiled'
  exact ⟨read, read', reorders, undeclaring, compiled, p', compiled', templates, parameters⟩

end PromptPipeline
