/-
# Proofs.Validation.Downstream -- what can be done with a valid pipeline

A flowchart is drawn exactly if every dependent of a template has a node to come from and
every output is produced (`Flowchart.render_ok_iff`), and a document is printed exactly if
no parameter is both input and output.  The check sees to all of that but one thing: it
asks of an input that no template produces it, and nothing further if it is an output
too.  So a valid pipeline is printed and drawn exactly if it is `OneWay`
(`valid_downstream_iff`), as pipelines that were compiled are.
-/
import PromptPipeline.Flowchart
import PromptPipeline.Proofs.Compile.Printable
import PromptPipeline.Proofs.Validation.Executable

namespace PromptPipeline

set_option autoImplicit false

/-- No parameter is both given by the caller and returned to it. -/
def Pipeline.OneWay (p : Pipeline) : Prop := ∀ q ∈ p.parameters, (q.isInput && q.isOutput) = false

instance (p : Pipeline) : Decidable p.OneWay :=
  inferInstanceAs (Decidable (∀ q ∈ p.parameters, (q.isInput && q.isOutput) = false))

/-! ## Drawing -/

namespace Flowchart

variable {p : Pipeline}

/-- The lines of a template can be drawn if all its dependents come from somewhere. -/
theorem templateLines_ok_iff {t : Template} :
    (∃ lines, templateLines p t = .ok lines)
      ↔ ∀ name ∈ t.dependents, ∃ source, origin? p name = some source := by
  unfold templateLines
  rw [Except.bind_pure_isOk_iff, Except.mapM_isOk_iff]
  refine forall₂_congr fun name depends => ?_
  cases origin? p name with
  | some source => exact ⟨fun _ => ⟨source, rfl⟩, fun _ => ⟨_, rfl⟩⟩
  | none =>
      constructor
      · rintro ⟨line, ⟨⟩⟩
      · rintro ⟨source, ⟨⟩⟩

/-- The edge of an output can be drawn if a template produces it. -/
theorem outputLine_ok_iff {q : Parameter} :
    (∃ line, outputLine p q = .ok line) ↔ ∃ t ∈ p.templates, t.result = q.name := by
  unfold outputLine
  cases produced : p.producer? q.name with
  | some t =>
      have found := List.find?_some produced
      have member := List.mem_of_find?_eq_some produced
      exact ⟨fun _ => ⟨t, member, beq_iff_eq.1 found⟩, fun _ => ⟨_, rfl⟩⟩
  | none =>
      have none := Validation.producer?_eq_none_iff.1 produced
      constructor
      · rintro ⟨line, ⟨⟩⟩
      · rintro ⟨t, member, same⟩
        exact absurd same (none t member)

/-- **A flowchart is drawn exactly if every edge has an origin.** -/
theorem render_ok_iff {link : Template → Option Link} :
    (∃ text, render p link = .ok text)
      ↔ (∀ t ∈ p.templates, ∀ name ∈ t.dependents, ∃ source, origin? p name = some source)
        ∧ ∀ q ∈ p.parameters, q.isOutput = true → ∃ t ∈ p.templates, t.result = q.name := by
  have parts : (∃ text, render p link = .ok text)
      ↔ (∃ steps, p.templates.mapM (templateLines p) = .ok steps)
        ∧ ∃ outputs, (p.parameters.filter (·.isOutput)).mapM (outputLine p) = .ok outputs := by
    constructor
    · rintro ⟨text, rendered⟩
      obtain ⟨steps, drawn, rest⟩ := Except.bind_ok_iff.1 rendered
      obtain ⟨outputs, returned, -⟩ := Except.bind_ok_iff.1 rest
      exact ⟨⟨steps, drawn⟩, outputs, returned⟩
    · rintro ⟨⟨steps, drawn⟩, outputs, returned⟩
      exact ⟨_, Except.bind_ok_iff.2 ⟨steps, drawn, Except.bind_ok_iff.2 ⟨outputs, returned, rfl⟩⟩⟩
  rw [parts, Except.mapM_isOk_iff, Except.mapM_isOk_iff]
  simp only [templateLines_ok_iff, outputLine_ok_iff, List.mem_filter, and_imp]

end Flowchart

/-! ## Valid pipelines -/

namespace Validation

variable {p : Pipeline}

theorem mem_of_parameter?_eq_some {name : String} {q : Parameter}
    (found : p.parameter? name = some q) : q ∈ p.parameters ∧ q.name = name := by
  unfold Pipeline.parameter? at found
  exact ⟨List.mem_of_find?_eq_some found, by simpa using List.find?_some found⟩

/-- What a template of an executable pipeline depends on comes from the input or from its
producer. -/
theorem Executable.exists_origin (executable : Executable p) {t : Template}
    (member : t ∈ p.templates) {name : String} (depends : name ∈ t.dependents) :
    ∃ source, Flowchart.origin? p name = some source := by
  unfold Flowchart.origin?
  obtain ⟨q, declared, named⟩ := executable.dependentsDeclared t member name depends
  by_cases given : (p.parameter? name).any (·.isInput) = true
  · exact ⟨"input", if_pos given⟩
  · rw [if_neg given]
    -- The first parameter of the name decides, and it is no input.
    have isSome : (p.parameter? name).isSome = true := parameter?_isSome_iff.2 ⟨q, declared, named⟩
    obtain ⟨first, found⟩ := Option.isSome_iff_exists.1 isSome
    obtain ⟨inside, firstNamed⟩ := mem_of_parameter?_eq_some found
    have notGiven : first.isInput = false := by simpa [found] using given
    obtain ⟨u, produces, result⟩ :=
      executable.othersProduced first inside notGiven
    cases produced : p.producer? name with
    | some producer => exact ⟨_, rfl⟩
    | none => exact absurd (result.trans firstNamed) (producer?_eq_none_iff.1 produced u produces)

/-- The outputs of an executable pipeline are produced exactly if none is given. -/
theorem Executable.outputs_produced_iff (executable : Executable p) :
    (∀ q ∈ p.parameters, q.isOutput = true → ∃ t ∈ p.templates, t.result = q.name) ↔ p.OneWay := by
  refine forall₂_congr fun q member => ?_
  cases given : q.isInput with
  | false =>
      rw [Bool.false_and]
      exact ⟨fun _ => rfl, fun _ _ => executable.othersProduced q member given⟩
  | true =>
      rw [Bool.true_and]
      constructor
      · intro produced
        refine Bool.eq_false_iff.2 fun returned => ?_
        obtain ⟨t, inside, result⟩ := produced returned
        exact executable.inputsGiven q member given t inside result
      · intro kept returned
        rw [kept] at returned
        cases returned

end Validation

/-- **A valid pipeline is printed, and drawn with any links, exactly if it is one-way**, and
one that was compiled is. -/
theorem valid_downstream_iff {p : Pipeline} (valid : Validation.validate p = .ok ()) :
    ((∃ text, Document.print Grammar.standard p = .ok text) ↔ p.OneWay)
      ∧ (∀ link, (∃ text, Flowchart.render p link = .ok text) ↔ p.OneWay)
      ∧ ∀ options source, (compile options source).value = .ok p → p.OneWay := by
  have executable := Validation.violations_eq_nil_iff.1
    (Validation.validate_eq_ok_iff_violations.1 valid)
  refine ⟨print_ok_iff, fun link => ?_, fun options source compiled => ?_⟩
  · rw [Flowchart.render_ok_iff, executable.outputs_produced_iff]
    exact and_iff_right fun t member name depends => executable.exists_origin member depends
  · exact (directed_compile compiled).1

/-- A valid pipeline of a template between an input and an output. -/
theorem valid_downstream_letter :
    let t : Template :=
      { Template.new "Write" "Write about {topic}" "letter" with dependents := .ofList ["topic"] }
    let p : Pipeline :=
      { title := "Letter"
        parameters := [⟨"topic", none, true, false⟩, ⟨"letter", none, false, true⟩]
        templates := [t] }
    Validation.validate p = .ok () ∧ p.OneWay
      ∧ (∃ text, Document.print Grammar.standard p = .ok text)
      ∧ ∃ text, Flowchart.render p (fun t => some ⟨"#" ++ t.name, t.title⟩) = .ok text := by
  intro t p
  have valid : Validation.validate p = .ok () := by decide +kernel
  have oneWay : p.OneWay := by decide
  obtain ⟨printed, drawn, -⟩ := valid_downstream_iff valid
  exact ⟨valid, oneWay, printed.2 oneWay, (drawn _).2 oneWay⟩

/-- An input that is an output too is produced by no template, which the check allows and
which neither a document nor a flowchart can show. -/
theorem valid_not_downstream :
    ¬∀ p, Validation.validate p = .ok () →
      (∃ text, Document.print Grammar.standard p = .ok text)
        ∧ ∀ link, ∃ text, Flowchart.render p link = .ok text := by
  intro always
  let p : Pipeline := { title := "T", parameters := [⟨"x", none, true, true⟩] }
  have valid : Validation.validate p = .ok () := by decide +kernel
  have refused : Document.print Grammar.standard p
      = .error (.invalidArguments (.inputAndOutput "x")) := by decide +kernel
  obtain ⟨⟨text, printed⟩, -⟩ := always p valid
  rw [refused] at printed
  cases printed

end PromptPipeline
