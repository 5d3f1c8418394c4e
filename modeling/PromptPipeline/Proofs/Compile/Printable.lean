/-
# Proofs.Compile.Printable -- a compiled pipeline has a document

No parameter of a compiled pipeline is both input and output, so every command that is
taken back has a line (`print_compiled`).  A result that nobody has declared is no input
when linking makes it an output.
-/
import PromptPipeline.Document.Print
import PromptPipeline.Proofs.Compile.Established
import PromptPipeline.Proofs.Edit.Replay
import PromptPipeline.Proofs.Grammar.Write

namespace PromptPipeline

set_option autoImplicit false

/-! ## Directed parameters -/

/-- No parameter is both input and output, and the results in `implicit` are declared and
no inputs. -/
structure Directed (implicit : List String) (p : Pipeline) : Prop where
  notBoth : ∀ q ∈ p.parameters, (q.isInput && q.isOutput) = false
  declared : ∀ name ∈ implicit, ∃ q ∈ p.parameters, q.name = name
  noInput : ∀ q ∈ p.parameters, q.name ∈ implicit → q.isInput = false

namespace Directed

variable {implicit : List String} {p p' : Pipeline}

theorem of_parameters (directed : Directed implicit p) (same : p'.parameters = p.parameters) :
    Directed implicit p' where
  notBoth := same ▸ directed.notBoth
  declared := same ▸ directed.declared
  noInput := same ▸ directed.noInput

/-- A new parameter is none of the results that were declared before. -/
theorem concat (directed : Directed implicit p) {q : Parameter}
    (free : ∀ q' ∈ p.parameters, q'.name ≠ q.name) (notBoth : (q.isInput && q.isOutput) = false)
    (same : p'.parameters = p.parameters ++ [q]) : Directed implicit p' where
  notBoth := by
    rw [same]
    exact List.forall_mem_append.2 ⟨directed.notBoth, List.forall_mem_singleton.2 notBoth⟩
  declared := by
    rw [same]
    intro name member
    obtain ⟨q', inside, named⟩ := directed.declared name member
    exact ⟨q', List.mem_append_left _ inside, named⟩
  noInput := by
    rw [same]
    intro q' member isImplicit
    rcases List.mem_append.1 member with before | last
    · exact directed.noInput q' before isImplicit
    · obtain ⟨q'', inside, named⟩ := directed.declared _ isImplicit
      rw [List.mem_singleton.1 last] at named
      exact absurd named (free q'' inside)

/-- A result that nobody has declared is declared as a parameter of no direction. -/
theorem declare (directed : Directed implicit p) {name : String}
    (free : ∀ q ∈ p.parameters, q.name ≠ name)
    (same : p'.parameters = p.parameters ++ [{ name := name }]) :
    Directed (implicit ++ [name]) p' where
  notBoth := (directed.concat (q := { name := name }) free rfl same).notBoth
  declared := by
    rw [same]
    intro other member
    rcases List.mem_append.1 member with before | last
    · obtain ⟨q, inside, named⟩ := directed.declared other before
      exact ⟨q, List.mem_append_left _ inside, named⟩
    · exact ⟨_, List.mem_append_right _ List.mem_cons_self, (List.mem_singleton.1 last).symm⟩
  noInput := by
    rw [same]
    intro q member isImplicit
    rcases List.mem_append.1 member with before | last
    · rcases List.mem_append.1 isImplicit with already | now
      · exact directed.noInput q before already
      · exact absurd (List.mem_singleton.1 now) (free q before)
    · rw [List.mem_singleton.1 last]

end Directed

theorem HeadStep.directed {c : Command} {p p' : Pipeline} (admissible : c.Admissible)
    (step : HeadStep c p p') {implicit : List String} (directed : Directed implicit p) :
    Directed implicit p' := by
  cases step with
  | url | version | modelVariant | modelName | persona => exact directed.of_parameters rfl
  | parameter description isInput isOutput free => exact directed.concat free admissible.2 rfl
  | knowledge registered =>
      rcases Directive.Knowledge.register_ok_iff.1 registered with ⟨_, -, -, rfl⟩ | ⟨-, rfl⟩
      · exact directed
      · exact directed.of_parameters rfl

theorem TemplateStep.directed {c : Command} {d d' : Draft} (admissible : c.Admissible)
    (step : TemplateStep c d d') {implicit : List String}
    (directed : Directed implicit d.pipeline) : Directed implicit d'.pipeline := by
  rcases step.pipeline with same | head
  · exact same ▸ directed
  · exact head.directed admissible directed

namespace Compile

/-! ## Compiling -/

/-- The templates of a pipeline depend on what they refer to. -/
def Dependent (p : Pipeline) : Prop := ∀ t ∈ p.templates, t.dependents = dependents t

theorem directed_compileHead {options : CompileOptions} {head : Section} {title : String}
    {description : Option String} {p : Pipeline}
    (compiled : (compileHead options head { Pipeline.new title with description }).value = .ok p) :
    Directed [] p ∧ Dependent p := by
  obtain ⟨-, ran⟩ := compileHead_ok_iff.1 compiled
  refine Logged.foldlM_keeps (I := fun p => Directed [] p ∧ Dependent p)
    (fun p line p' applied kept => ?_) ran ⟨⟨?_, ?_, ?_⟩, ?_⟩
  · obtain ⟨c, parsed, applied⟩ := applyLine_ok_iff.1 applied
    have step := applyToHead_ok_iff.1 applied
    have same : p'.templates = p.templates := step.grows.templates
    refine ⟨step.directed (Grammar.parse_admissible parsed) kept.1, ?_⟩
    unfold Dependent
    rw [same]
    exact kept.2
  · exact fun _ member => nomatch member
  · exact fun _ member => nomatch member
  · exact fun _ member => nomatch member
  · exact fun _ member => nomatch member

theorem directed_addSection {x x' : Progress} {s : Section}
    (added : (addSection x s).value = .ok x')
    (kept : Directed x.implicit x.pipeline ∧ Dependent x.pipeline) :
    Directed x'.implicit x'.pipeline ∧ Dependent x'.pipeline := by
  obtain ⟨draft, compiled, rfl⟩ := addSection_ok_iff.1 added
  obtain ⟨t, draft, started, ran, rfl⟩ := compileTemplate_ok_iff.1 compiled
  have run : Directed x.implicit draft.pipeline
      ∧ draft.pipeline.templates = x.pipeline.templates := by
    refine Logged.foldlM_keeps
      (I := fun d : Draft => Directed x.implicit d.pipeline
        ∧ d.pipeline.templates = x.pipeline.templates)
      (fun d line d' applied kept => ?_) ran ⟨kept.1, rfl⟩
    obtain ⟨c, parsed, applied⟩ := applyLine_ok_iff.1 applied
    have step := applyToTemplate_ok_iff.1 applied
    exact ⟨step.directed (Grammar.parse_admissible parsed) kept.1,
      step.grows.templates.trans kept.2⟩
  have dependent : ∀ u ∈ draft.pipeline.templates
      ++ [{ draft.template with dependents := dependents draft.template }],
      u.dependents = dependents u := by
    rw [run.2]
    exact List.forall_mem_append.2 ⟨kept.2, List.forall_mem_singleton.2 rfl⟩
  unfold Progress.add
  dsimp only
  split
  · exact ⟨run.1.of_parameters rfl, dependent⟩
  · rename_i missing
    have free : ∀ q ∈ draft.pipeline.parameters, q.name ≠ draft.template.result :=
      fun q inside same => missing (parameter?_isSome_iff.2 ⟨q, inside, same⟩)
    exact ⟨run.1.declare free rfl, dependent⟩

theorem notBoth_link {x : Progress} (directed : Directed x.implicit x.pipeline) :
    ∀ q ∈ x.link.parameters, (q.isInput && q.isOutput) = false := by
  intro q member
  obtain ⟨q', inside, rfl⟩ := List.mem_map.1 member
  split
  · rename_i isImplicit
    rw [Bool.and_eq_true, List.contains_iff_mem] at isImplicit
    rw [directed.noInput q' inside isImplicit.1, Bool.false_and]
  · exact directed.notBoth q' inside

end Compile

theorem directed_compile {options : CompileOptions} {source : String} {p : Pipeline}
    (compiled : (compile options source).value = .ok p) :
    (∀ q ∈ p.parameters, (q.isInput && q.isOutput) = false) ∧ Compile.Dependent p := by
  obtain ⟨d, -, compiled⟩ := compile_ok_iff.1 compiled
  obtain ⟨p₀, x, head, sections, -, rfl⟩ := Compile.ofDocument_ok_iff.1 compiled
  have kept := Logged.foldlM_keeps
    (I := fun x : Compile.Progress => Directed x.implicit x.pipeline ∧ Compile.Dependent x.pipeline)
    (fun _ _ _ => Compile.directed_addSection) sections (Compile.directed_compileHead head)
  exact ⟨Compile.notBoth_link kept.1, kept.2⟩

/-! ## Printing -/

/-- Commands that are made in a way in which each has a line. -/
theorem writable_of_mem_map {α : Type} {f : α → Command} {l : List α} {c : Command}
    (member : c ∈ l.map f) (each : ∀ a ∈ l, (f a).Writable) : c.Writable := by
  obtain ⟨a, inside, rfl⟩ := List.mem_map.1 member
  exact each a inside

/-- The commands of requirements name variants that there are. -/
theorem commands_writable (requirements : Option ModelRequirements) :
    ∀ c ∈ Directive.Model.commands requirements, c.Writable := by
  intro c member
  rcases requirements with _ | ⟨variant, name⟩
  · cases member
  · rcases List.mem_append.1 member with ofVariant | ofName
    · exact writable_of_mem_map ofVariant fun variant _ => ⟨variant, variant.ofKeyword?_word⟩
    · exact writable_of_mem_map ofName fun _ _ => trivial

theorem headCommands_writable {p : Pipeline}
    (directed : ∀ q ∈ p.parameters, (q.isInput && q.isOutput) = false) :
    ∀ c ∈ Document.headCommands Grammar.standard p, c.Writable := by
  intro c member
  rw [headCommands_standard] at member
  simp only [List.mem_append] at member
  rcases member with url | version | parameters | defaults | personas | knowledge
  · exact writable_of_mem_map url fun _ _ => trivial
  · exact writable_of_mem_map version fun _ _ => trivial
  · exact writable_of_mem_map parameters directed
  · exact commands_writable _ c defaults
  · exact writable_of_mem_map personas fun _ _ => trivial
  · exact writable_of_mem_map knowledge fun _ _ => trivial

theorem execution_writable (d : Draft) : ∀ c ∈ Directive.Execute.fromTemplate d, c.Writable := by
  unfold Directive.Execute.fromTemplate
  split
  · exact fun _ member => nomatch member
  · exact fun c member => List.mem_singleton.1 member ▸ trivial

theorem boundCommands_writable (unit : AmountUnit) (bounds : Bounds) :
    ∀ c ∈ Directive.Expect.boundCommands unit bounds, c.Writable := by
  unfold Directive.Expect.boundCommands
  split
  · split
    · simp [Command.Writable]
    · simp [Command.Writable]
  · simp [Command.Writable]
  · simp [Command.Writable]
  · simp

theorem templateCommands_writable (d : Draft) :
    ∀ c ∈ Document.templateCommands Grammar.standard d, c.Writable := by
  intro c member
  rw [templateCommands_standard] at member
  simp only [List.mem_append] at member
  rcases member with execution | requirements | persona | knowledge | expectations | functions
    | jokers
  · exact execution_writable d c execution
  · exact commands_writable _ c requirements
  · exact writable_of_mem_map persona fun _ _ => trivial
  · exact writable_of_mem_map knowledge fun _ _ => trivial
  · rcases List.mem_append.1 expectations with amounts | format
    · obtain ⟨e, -, inside⟩ := List.mem_flatMap.1 amounts
      exact boundCommands_writable _ _ c inside
    · exact writable_of_mem_map format fun _ _ => trivial
  · exact writable_of_mem_map functions fun _ _ => trivial
  · exact writable_of_mem_map jokers fun _ _ => trivial

/-- The commands that are taken back from a template are written. -/
theorem templateBlocks_ok (p : Pipeline) (t : Template) :
    ∃ blocks, Document.templateBlocks Grammar.standard p t = .ok blocks := by
  obtain ⟨lines, written⟩ := Except.mapM_isOk (f := Grammar.standard.write) fun c member =>
    Grammar.write_ok (templateCommands_writable ⟨t, p⟩ c member)
  exact ⟨_, Except.bind_ok_iff.2 ⟨lines, written, rfl⟩⟩

/-- **A pipeline is printed exactly if no parameter of it is both input and output.** -/
theorem print_ok_iff {p : Pipeline} :
    (∃ text, Document.print Grammar.standard p = .ok text)
      ↔ ∀ q ∈ p.parameters, (q.isInput && q.isOutput) = false := by
  constructor
  · rintro ⟨text, printed⟩ q member
    obtain ⟨lines, written, -⟩ := Except.bind_ok_iff.1 printed
    have each := Except.mapM_isOk_iff.1 ⟨lines, written⟩
    have declared : Command.parameter q.name q.description q.isInput q.isOutput
        ∈ Document.headCommands Grammar.standard p := by
      rw [headCommands_standard]
      simp only [List.mem_append]
      exact .inr (.inr (.inl (List.mem_map_of_mem member)))
    exact Grammar.write_ok_iff.1 (each _ declared)
  · intro directed
    obtain ⟨lines, written⟩ := Except.mapM_isOk (f := Grammar.standard.write) fun c member =>
      Grammar.write_ok (headCommands_writable directed c member)
    obtain ⟨templates, blocks⟩ := Except.mapM_isOk (l := p.templates)
      fun t _ => templateBlocks_ok p t
    exact ⟨_, Except.bind_ok_iff.2
      ⟨lines, written, Except.bind_ok_iff.2 ⟨templates, blocks, rfl⟩⟩⟩

/-- **A pipeline that compiles is printed.** -/
theorem print_compiled {options : CompileOptions} {source : String} {p : Pipeline}
    (compiled : (compile options source).value = .ok p) :
    ∃ text, Document.print Grammar.standard p = .ok text :=
  print_ok_iff.2 (directed_compile compiled).1

end PromptPipeline
