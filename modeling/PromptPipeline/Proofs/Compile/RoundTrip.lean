/-
# Proofs.Compile.RoundTrip -- compiling what was printed

A document that says a compiled pipeline compiles to it again: the commands of the head
and of each section rebuild what they were taken from, every result is declared by then,
and the pipeline has been checked.  So a pipeline that compiles has a document, and the
document compiles to it exactly if what is heard of its blocks does, as it is the case if
the pipeline is legible (`compile_print`).
-/
import PromptPipeline.Proofs.Compile.Printable
import PromptPipeline.Proofs.Compile.Section
import PromptPipeline.Proofs.Document.ReadBack

namespace PromptPipeline

set_option autoImplicit false

open Document (SaysAll SaysHead Says)

namespace Compile

variable {p : Pipeline}

/-! ## Sections that are read back -/

/-- **A head that is said again compiles to the pipeline without its templates.** -/
theorem compileHead_of_says (options : CompileOptions) {head : Section} (coherent : p.Coherent)
    (said : SaysHead Grammar.standard p head) :
    (compileHead options head { Pipeline.new p.title with description := head.description }).value
      = .ok { p with templates := [] } := by
  obtain ⟨readable, commands⟩ := said_of_forall₂ said.commands
  refine compileHead_iff_steps.2 ⟨.inl said.code, readable, ?_⟩
  rw [said.description, commands]
  exact coherent.replay

/-- The commands of a template do not depend on its dependents and on other templates. -/
theorem templateCommands_congr (t : Template) (dependents : NameSet) (templates : List Template) :
    Document.templateCommands Grammar.standard
        ⟨{ t with dependents := dependents }, { p with templates := templates }⟩
      = Document.templateCommands Grammar.standard ⟨t, p⟩ := by
  rw [templateCommands_standard, templateCommands_standard]
  rfl

/-- **A section that says a template compiles to it.** -/
theorem compileTemplate_of_says {s : Section} {t : Template} (pipeline : p.Coherent)
    (coherent : t.Coherent p) (dependent : t.dependents = dependents t)
    (said : Says Grammar.standard p s t) (before : List Template) :
    (compileTemplate { p with templates := before } s).value
      = .ok ⟨t, { p with templates := before }⟩ := by
  obtain ⟨line, code⟩ := said.code
  obtain ⟨raw, result, valid⟩ := said.result
  -- The dependents are found only when all commands have been made.
  let bare : Template := { t with dependents := {} }
  let host : Pipeline := { p with templates := before }
  have started : startTemplate s = .ok { Template.new t.title t.content t.result with
      description := t.description
      language := t.language } := by
    rw [← said.title, ← said.description]
    exact startTemplate_ok_iff.2 ⟨_, raw, t.result, code, result, valid, rfl⟩
  have hosted : host.Coherent := { pipeline with }
  have bareCoherent : bare.Coherent host := { coherent with }
  have run := bareCoherent.replay hosted
  rw [templateCommands_congr] at run
  obtain ⟨readable, commands⟩ := said_of_forall₂ said.commands
  rw [← commands] at run
  refine compileTemplate_iff_steps.2 ⟨_, ⟨bare, host⟩, started, readable, run, ?_⟩
  have same : { bare with dependents := dependents bare } = t := by
    rw [show dependents bare = t.dependents from dependent.symm]
  exact congrArg (Draft.mk · host) same

/-- A template whose result is declared is added as it is. -/
theorem addSection_of_says {s : Section} {t : Template} (pipeline : p.Coherent)
    (complete : t.Complete p) (dependent : t.dependents = dependents t)
    (said : Says Grammar.standard p s t) (before : List Template) :
    (addSection ⟨{ p with templates := before }, []⟩ s).value
      = .ok ⟨{ p with templates := before ++ [t] }, []⟩ := by
  refine addSection_ok_iff.2 ⟨_, compileTemplate_of_says pipeline complete.coherent dependent said
    before, ?_⟩
  have declared : (Pipeline.parameter? { p with templates := before } t.result).isSome = true :=
    parameter?_isSome_iff.2 complete.declared
  unfold Progress.add
  dsimp only
  rw [if_pos declared]

theorem addSections_of_says (pipeline : p.Coherent) {templates : List Template}
    (complete : ∀ t ∈ templates, t.Complete p)
    (dependent : ∀ t ∈ templates, t.dependents = dependents t) {sections : List Section}
    (said : List.Forall₂ (Says Grammar.standard p) sections templates) (before : List Template) :
    (sections.foldlM addSection ⟨{ p with templates := before }, []⟩).value
      = .ok ⟨{ p with templates := before ++ templates }, []⟩ := by
  induction said generalizing before with
  | nil =>
      rw [List.append_nil]
      rfl
  | @cons s t sections templates first others ih =>
      obtain ⟨completeHere, completeRest⟩ := List.forall_mem_cons.1 complete
      obtain ⟨dependentHere, dependentRest⟩ := List.forall_mem_cons.1 dependent
      have rest := ih completeRest dependentRest (before ++ [t])
      rw [List.append_assoc] at rest
      exact Logged.foldlM_cons_ok_iff.2
        ⟨_, addSection_of_says pipeline completeHere dependentHere first before, rest⟩

/-- Where nothing was declared without a command, linking changes nothing. -/
theorem link_nil (p : Pipeline) : Progress.link ⟨p, []⟩ = p := by
  unfold Progress.link
  simp

/-- **A document that says a compiled pipeline compiles to it.** -/
theorem ofDocument_of_says {options : CompileOptions} {d : Document}
    (established : p.Established) (dependent : Dependent p)
    (valid : options.validate = true → Validation.validate p = .ok ())
    (said : SaysAll Grammar.standard p d) : (ofDocument options d).value = .ok p := by
  have sections := addSections_of_says established.coherent established.templates dependent
    said.templates []
  rw [List.nil_append] at sections
  have head := compileHead_of_says options established.coherent said.head
  refine ofDocument_ok_iff.2 ⟨_, _, ?_, sections, ?_, link_nil p⟩
  · rw [said.title]
    exact head
  · rw [link_nil]
    exact valid

end Compile

/-! ## What is heard -/

namespace Document

variable {g : Grammar} {p : Pipeline}

theorem HeardTitle.unique {title said said' : String} (heard : HeardTitle title said)
    (heard' : HeardTitle title said') : said = said' :=
  Option.some.inj (heard.spoken.symm.trans heard'.spoken)

theorem HeardDescription.unique {description said said' : Option String}
    (heard : HeardDescription description said) (heard' : HeardDescription description said') :
    said = said' := by
  obtain ⟨parts, each, rfl⟩ := heard
  obtain ⟨parts', each', rfl⟩ := heard'
  have unique : Relator.RightUnique HeardPart := fun _ _ _ first second =>
    Option.some.inj (first.spoken.symm.trans second.spoken)
  rw [List.right_unique_forall₂' unique each each']

theorem bare_commands_unique {commands : List Command} {lines lines' : List CommandLine}
    (heard : List.Forall₂ (fun c (line : CommandLine) => HeardCommand g c line.text) commands lines)
    (heard' : List.Forall₂ (fun c (line : CommandLine) => HeardCommand g c line.text) commands
      lines') :
    lines.map (fun c => { c with line := 0 }) = lines'.map fun c => { c with line := 0 } := by
  have unique : Relator.RightUnique (HeardCommand g) := by
    rintro c said said' ⟨line, wrote, -, spoken, -⟩ ⟨line', wrote', -, spoken', -⟩
    obtain rfl := Except.ok.inj (wrote.symm.trans wrote')
    exact Option.some.inj (spoken.symm.trans spoken')
  have texts : lines.map CommandLine.text = lines'.map CommandLine.text :=
    List.right_unique_forall₂' unique (List.forall₂_map_right_iff.2 heard)
      (List.forall₂_map_right_iff.2 heard')
  have bare (l : List CommandLine) : l.map (fun c => { c with line := 0 })
      = (l.map CommandLine.text).map (CommandLine.mk · 0) := by
    rw [List.map_map]
    rfl
  rw [bare, bare, texts]

theorem HeardTemplate.bare_unique {t : Template} {s s' : Section} (heard : HeardTemplate g p t s)
    (heard' : HeardTemplate g p t s') : s.bare = s'.bare := by
  obtain ⟨place, code⟩ := heard.code
  obtain ⟨place', code'⟩ := heard'.code
  obtain ⟨raw, named, result⟩ := heard.result
  obtain ⟨raw', named', result'⟩ := heard'.result
  unfold Section.bare
  rw [heard.title.unique heard'.title, heard.description.unique heard'.description,
    bare_commands_unique heard.commands heard'.commands, code, code', result, result',
    Option.some.inj (named.symm.trans named')]
  rfl

theorem HeardHead.bare_unique {s s' : Section} (heard : HeardHead g p s)
    (heard' : HeardHead g p s') : s.bare = s'.bare := by
  unfold Section.bare
  rw [heard.description.unique heard'.description,
    bare_commands_unique heard.commands heard'.commands, heard.untitled, heard'.untitled,
    heard.noCode, heard'.noCode, heard.noResult, heard'.noResult]

/-- Up to lines, one document is heard of a pipeline. -/
theorem HeardAs.bare_unique {d d' : Document} (heard : HeardAs g p d) (heard' : HeardAs g p d') :
    d.bare = d'.bare := by
  have title : d.title = d'.title := by
    by_cases untitled : p.title = ""
    · rw [heard.untitled untitled, heard'.untitled untitled]
    · obtain ⟨said, heading, is⟩ := heard.titled untitled
      obtain ⟨said', heading', is'⟩ := heard'.titled untitled
      rw [is, is', heading.unique heading']
  have unique : Relator.RightUnique fun t s => ∃ s', HeardTemplate g p t s' ∧ s'.bare = s := by
    rintro t _ _ ⟨s, first, rfl⟩ ⟨s', second, rfl⟩
    exact first.bare_unique second
  have bared {sections : List Section}
      (all : List.Forall₂ (HeardTemplate g p) p.templates sections) :
      List.Forall₂ (fun t s => ∃ s', HeardTemplate g p t s' ∧ s'.bare = s) p.templates
        (sections.map Section.bare) :=
    List.forall₂_map_right_iff.2 (all.imp fun _ s heard => ⟨s, heard, rfl⟩)
  have sections : d.templates.map Section.bare = d'.templates.map Section.bare :=
    List.right_unique_forall₂' unique (bared heard.templates) (bared heard'.templates)
  unfold Document.bare
  rw [title, heard.head.bare_unique heard'.head, sections]

end Document

theorem validate_of_compile {options : CompileOptions} {source : String} {p : Pipeline}
    (compiled : (compile options source).value = .ok p) :
    options.validate = true → Validation.validate p = .ok () := by
  obtain ⟨d, -, compiled⟩ := compile_ok_iff.1 compiled
  obtain ⟨p₀, x, -, -, valid, rfl⟩ := Compile.ofDocument_ok_iff.1 compiled
  exact valid

/-- **A pipeline that compiles is printed, and what is printed compiles to it** exactly if
what is heard of its blocks does, and always if it is legible. -/
theorem compile_print {options : CompileOptions} {source : String} {p : Pipeline}
    (compiled : (compile options source).value = .ok p) :
    ∃ text, Document.print Grammar.standard p = .ok text
      ∧ (∀ d, Document.HeardAs Grammar.standard p d →
        ((compile options text).value = .ok p ↔ (Compile.ofDocument options d).value = .ok p))
      ∧ (Document.Legible Grammar.standard p → (compile options text).value = .ok p) := by
  obtain ⟨text, printed⟩ := print_compiled compiled
  have exact_ : ∀ d, Document.HeardAs Grammar.standard p d →
      ((compile options text).value = .ok p ↔ (Compile.ofDocument options d).value = .ok p) := by
    intro d heard
    obtain ⟨d', read, heard'⟩ :=
      Document.ofSource_print (fun _ _ => Grammar.letter_of_write) heard printed
    rw [← Compile.ofDocument_bare, heard.bare_unique heard', Compile.ofDocument_bare,
      compile_ok_iff, read]
    simp
  refine ⟨text, printed, exact_, fun legible => ?_⟩
  obtain ⟨d, heard, said⟩ := legible.heard
  obtain ⟨-, dependent⟩ := directed_compile compiled
  exact (exact_ d heard).2 (Compile.ofDocument_of_says (established_compile compiled)
    dependent (validate_of_compile compiled) said)

/-- A legible pipeline with a description, an input, a bound and a result that linking
declares. -/
theorem compile_print_letter :
    let source := "# Letter\n\nWrites *a* letter.\n\n- INPUT PARAMETER {topic} What it is about\n\n"
      ++ "## Write\n\n- EXPECT MIN 2 WORDS\n\n```text\nWrite about {topic}\n```\n\n-> {letter}\n"
    let t : Template :=
      { Template.new "Write" "Write about {topic}" "letter" with
        language := some "text"
        expectations := { words := some ⟨some 2, none⟩ }
        dependents := .ofList ["topic"] }
    let p : Pipeline :=
      { title := "Letter"
        description := some "Writes *a* letter."
        parameters :=
          [⟨"topic", some "What it is about", true, false⟩, ⟨"letter", none, false, true⟩]
        templates := [t] }
    (compile {} source).value = .ok p ∧ Document.Legible Grammar.standard p
      ∧ ∃ text, Document.print Grammar.standard p = .ok text ∧ (compile {} text).value = .ok p := by
  intro source t p
  have compiled : (compile {} source).value = .ok p := by decide +kernel
  have legible : Document.Legible Grammar.standard p := by decide +kernel
  obtain ⟨text, printed, -, again⟩ := compile_print compiled
  exact ⟨compiled, legible, text, printed, again legible⟩

/-- Nothing is escaped inside of a line, so the backslash before a mark that a source has
is lost, and the second time the marks are read as markup. -/
theorem compile_print_unescaped :
    ¬∀ source p, (compile {} source).value = .ok p →
      ∃ text, Document.print Grammar.standard p = .ok text ∧ (compile {} text).value = .ok p := by
  intro always
  let source := "# T\n\n- INPUT PARAMETER {x} a\\*b\\*c\n"
  let text := "# T\n\n- INPUT PARAMETER {x} a*b*c\n"
  let p : Pipeline := { title := "T", parameters := [⟨"x", some "a*b*c", true, false⟩] }
  let p' : Pipeline := { title := "T", parameters := [⟨"x", some "abc", true, false⟩] }
  have compiled : (compile {} source).value = .ok p := by decide +kernel
  have printed : Document.print Grammar.standard p = .ok text := by decide +kernel
  have other : (compile {} text).value = .ok p' := by decide +kernel
  obtain ⟨text', same, again⟩ := always source p compiled
  obtain rfl : text = text' := Except.ok.inj (printed.symm.trans same)
  have differs : p' ≠ p := by decide
  exact differs (Except.ok.inj (other.symm.trans again))

end PromptPipeline
