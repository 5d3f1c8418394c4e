/-
# Proofs.Compile.Run -- when compiling succeeds, and how it fails

Each stage of compiling is taken apart into the runs that it consists of.  Notices
have no say in it, and an error of a stage is the error of the whole.  The lines where
texts stand are only for errors (`ofDocument_bare`).
-/
import PromptPipeline.Compile.Basic
import PromptPipeline.Proofs.Edit.Run
import Mathlib.Logic.Unique
import Mathlib.Tactic.Cases

namespace PromptPipeline

set_option autoImplicit false

namespace Compile

variable {options : CompileOptions} {p p' : Pipeline} {s : Section}

/-- A line is applied by reading it and applying what was read. -/
theorem applyLine_ok_iff {σ : Type} {place : Place} {part : Part} {apply : Command → Edit σ}
    {x x' : σ} {line : CommandLine} :
    (applyLine place part apply x line).value = .ok x'
      ↔ ∃ c, Grammar.standard.parse line.text place = .ok c ∧ (apply c x).value = .ok x' := by
  unfold applyLine
  generalize Grammar.standard.parse line.text place = read
  cases read with
  | error e => simp
  | ok c => simp [Except.mapError_ok_iff]

theorem compileHead_ok_iff {head : Section} :
    (compileHead options head p).value = .ok p'
      ↔ (head.code = [] ∨ options.allowHeadCode = true)
        ∧ (head.commands.foldlM (applyLine .head .head Grammar.standard.applyToHead) p).value
          = .ok p' := by
  unfold compileHead
  generalize (head.commands.foldlM (applyLine .head .head Grammar.standard.applyToHead) p) = run
  cases code : head.code with
  | nil => simp
  | cons block rest =>
      cases allowed : options.allowHeadCode with
      | true => simp [Except.bind_ok_iff]
      | false => simp [Except.bind_ok_iff]

theorem startTemplate_ok_iff {t : Template} :
    startTemplate s = .ok t
      ↔ ∃ block raw result, s.code = [block] ∧ s.result = some raw ∧ Name.validate raw = .ok result
        ∧ { Template.new s.title block.content result with
            description := s.description
            language := block.language } = t := by
  unfold startTemplate
  split
  · rename_i block code
    cases given : s.result with
    | none => simp [code]
    | some raw =>
        cases valid : Name.validate raw with
        | error refusal => simp [code, valid]
        | ok result => simp [code, valid]
  · rename_i several
    constructor
    · intro started
      cases started
    · rintro ⟨block, _, _, code, -⟩
      exact absurd code (several block)

theorem compileTemplate_ok_iff {d : Draft} :
    (compileTemplate p s).value = .ok d
      ↔ ∃ t draft, startTemplate s = .ok t
        ∧ (s.commands.foldlM
            (applyLine .template (.template s.title) Grammar.standard.applyToTemplate)
            ⟨t, p⟩).value = .ok draft
        ∧ { draft with template.dependents := dependents draft.template } = d := by
  unfold compileTemplate
  simp only [Logged.bind_ok_iff, Logged.value_lift, Except.mapError_ok_iff, Logged.value_pure,
    Except.ok.injEq]
  constructor
  · rintro ⟨t, started, draft, ran, same⟩
    exact ⟨t, draft, started, ran, same⟩
  · rintro ⟨t, draft, started, ran, same⟩
    exact ⟨t, started, draft, ran, same⟩

theorem addSection_ok_iff {x x' : Progress} :
    (addSection x s).value = .ok x'
      ↔ ∃ draft, (compileTemplate x.pipeline s).value = .ok draft
        ∧ { x with pipeline := draft.pipeline }.add draft.template = x' := by
  unfold addSection
  simp only [Logged.bind_ok_iff, Logged.value_note, Logged.value_pure, Except.ok.injEq,
    exists_const, true_and]

theorem ofDocument_ok_iff {d : Document} :
    (ofDocument options d).value = .ok p
      ↔ ∃ p₀ x,
        (compileHead options d.head
          { Pipeline.new (d.title.getD "") with description := d.head.description }).value = .ok p₀
        ∧ (d.templates.foldlM addSection ⟨p₀, []⟩).value = .ok x
        ∧ (options.validate = true → Validation.validate x.link = .ok ())
        ∧ x.link = p := by
  unfold ofDocument
  simp only [Logged.bind_ok_iff, Logged.value_note, exists_const, true_and]
  cases validate : options.validate with
  | true => simp [Except.bind_ok_iff, Except.mapError_ok_iff, Unique.exists_iff]
  | false => simp

/-! ## Errors -/

section

variable {e : CompileError}

/-- A line fails as it cannot be read or as its command is refused. -/
theorem applyLine_error_iff {σ : Type} {place : Place} {part : Part} {apply : Command → Edit σ}
    {x : σ} {line : CommandLine} :
    (applyLine place part apply x line).value = .error e
      ↔ ∃ error, e = .command part line.line error
        ∧ (Grammar.standard.parse line.text place = .error error
          ∨ ∃ c r, Grammar.standard.parse line.text place = .ok c ∧ (apply c x).value = .error r
            ∧ r.error = error) := by
  unfold applyLine
  generalize Grammar.standard.parse line.text place = read
  cases read with
  | error error => simp [eq_comm]
  | ok c =>
      dsimp only
      rw [Logged.value_mapError, Except.mapError_error_iff]
      constructor
      · rintro ⟨r, failed, rfl⟩
        exact ⟨r.error, rfl, .inr ⟨c, r, rfl, failed, rfl⟩⟩
      · rintro ⟨_, rfl, unread | ⟨_, r, read, failed, rfl⟩⟩
        · cases unread
        · cases read
          exact ⟨r, failed, rfl⟩

/-- A head fails as it has code, or as one of its lines does. -/
theorem compileHead_error_iff {head : Section} :
    (compileHead options head p).value = .error e
      ↔ (options.allowHeadCode = false ∧ ∃ block ∈ head.code.head?, .headCodeBlock block.line = e)
        ∨ (head.code = [] ∨ options.allowHeadCode = true)
          ∧ (head.commands.foldlM (applyLine .head .head Grammar.standard.applyToHead) p).value
            = .error e := by
  unfold compileHead
  generalize (head.commands.foldlM (applyLine .head .head Grammar.standard.applyToHead) p) = run
  cases code : head.code with
  | nil => simp
  | cons block rest =>
      cases allowed : options.allowHeadCode with
      | true => simp [Except.bind_error_iff]
      | false => simp [Except.bind_error_iff]

/-- A template fails as it lacks something, or as one of its lines does. -/
theorem compileTemplate_error_iff :
    (compileTemplate p s).value = .error e
      ↔ (∃ fault, startTemplate s = .error fault ∧ .template s.title s.line fault = e)
        ∨ ∃ t, startTemplate s = .ok t
          ∧ (s.commands.foldlM
              (applyLine .template (.template s.title) Grammar.standard.applyToTemplate)
              ⟨t, p⟩).value = .error e := by
  unfold compileTemplate
  simp only [Logged.bind_error_iff, Logged.value_lift, Except.mapError_error_iff,
    Except.mapError_ok_iff, Logged.value_pure, reduceCtorEq, and_false, exists_false, or_false]

theorem addSection_error_iff {x : Progress} :
    (addSection x s).value = .error e ↔ (compileTemplate x.pipeline s).value = .error e := by
  unfold addSection
  simp only [Logged.bind_error_iff, Logged.value_note, Logged.value_pure, reduceCtorEq, and_false,
    exists_false, or_false, false_or, exists_const, true_and]

/-- A document fails in its head, in a section or as what it compiles to is not valid. -/
theorem ofDocument_error_iff {d : Document} :
    (ofDocument options d).value = .error e
      ↔ (compileHead options d.head
          { Pipeline.new (d.title.getD "") with description := d.head.description }).value
            = .error e
        ∨ ∃ p₀, (compileHead options d.head
            { Pipeline.new (d.title.getD "") with description := d.head.description }).value
              = .ok p₀
          ∧ ((d.templates.foldlM addSection ⟨p₀, []⟩).value = .error e
            ∨ ∃ x, (d.templates.foldlM addSection ⟨p₀, []⟩).value = .ok x
              ∧ options.validate = true
              ∧ ∃ violations, Validation.validate x.link = .error violations
                ∧ .invalid violations = e) := by
  unfold ofDocument
  simp only [Logged.bind_error_iff, Logged.value_note, reduceCtorEq, false_or, exists_const,
    true_and]
  cases validate : options.validate with
  | true => simp [Except.bind_error_iff, Except.mapError_error_iff]
  | false => simp

end

end Compile

/-! ## Lines -/

/-- A section without the lines where its texts stand. -/
def Section.bare (s : Section) : Section :=
  { s with
    line := 0
    commands := s.commands.map fun c => { c with line := 0 }
    code := s.code.map fun b => { b with line := 0 } }

/-- A document without the lines where its texts stand. -/
def Document.bare (d : Document) : Document :=
  { d with head := d.head.bare, templates := d.templates.map Section.bare }

namespace Compile

variable {options : CompileOptions} {p p' : Pipeline} {s : Section}

theorem foldlM_bare {σ : Type} {place : Place} {part : Part} {apply : Command → Edit σ} {x x' : σ} :
    (s.bare.commands.foldlM (applyLine place part apply) x).value = .ok x'
      ↔ (s.commands.foldlM (applyLine place part apply) x).value = .ok x' := by
  refine Logged.foldlM_map_ok_iff fun x line x' => ?_
  rw [applyLine_ok_iff, applyLine_ok_iff]

theorem compileHead_bare :
    (compileHead options s.bare p).value = .ok p' ↔ (compileHead options s p).value = .ok p' := by
  rw [compileHead_ok_iff, compileHead_ok_iff, foldlM_bare, Section.bare, List.map_eq_nil_iff]

theorem startTemplate_bare : startTemplate s.bare = startTemplate s := by
  rcases s with ⟨title, line, description, commands, code, result⟩
  match code with
  | [] => rfl
  | [_] => rfl
  | _ :: _ :: _ => rfl

theorem addSection_bare {x x' : Progress} :
    (addSection x s.bare).value = .ok x' ↔ (addSection x s).value = .ok x' := by
  have title : s.bare.title = s.title := rfl
  simp only [addSection_ok_iff, compileTemplate_ok_iff, startTemplate_bare, foldlM_bare, title]

/-- **Whether and to what a document compiles does not depend on lines.** -/
theorem ofDocument_bare {d : Document} :
    (ofDocument options d.bare).value = .ok p ↔ (ofDocument options d).value = .ok p := by
  have sections {x x' : Progress} :
      (d.bare.templates.foldlM addSection x).value = .ok x'
        ↔ (d.templates.foldlM addSection x).value = .ok x' :=
    Logged.foldlM_map_ok_iff fun _ _ _ => addSection_bare
  have title : d.bare.title = d.title := rfl
  have head : d.bare.head = d.head.bare := rfl
  have description : d.head.bare.description = d.head.description := rfl
  simp only [ofDocument_ok_iff, sections, title, head, description, compileHead_bare]

end Compile

/-- **A source compiles as the document that it is read as.** -/
theorem compile_ok_iff {options : CompileOptions} {source : String} {p : Pipeline} :
    (compile options source).value = .ok p
      ↔ ∃ d, Document.ofSource source = .ok d ∧ (Compile.ofDocument options d).value = .ok p := by
  unfold compile
  simp only [Logged.bind_ok_iff, Logged.value_lift, Except.mapError_ok_iff]

/-- A source fails as it cannot be read or as its document does. -/
theorem compile_error_iff {options : CompileOptions} {source : String}
    {e : CompileError} :
    (compile options source).value = .error e
      ↔ (∃ fault, Document.ofSource source = .error fault ∧ .document fault = e)
        ∨ ∃ d, Document.ofSource source = .ok d
          ∧ (Compile.ofDocument options d).value = .error e := by
  unfold compile
  simp only [Logged.bind_error_iff, Logged.value_lift, Except.mapError_error_iff,
    Except.mapError_ok_iff]

end PromptPipeline
