/-
# Proofs.Compile.Redeclaration -- when a declaration clashes

A parameter is declared at most once, and the results of templates become parameters as
soon as their section is done.  So a parameter that one line declares clashes in one
case: the line stands in a section behind the one that results in the parameter
(`compile_clash_iff`).  In front of that section, or in it, the same line is fine.

An error of compiling is traced to the line that it is about, with everything before this
line done (`Logged.foldlM_error_iff`).  What is listed there is known from the sections
(`exists_listed_iff`).
-/
import PromptPipeline.Proofs.Compile.Declarations
import PromptPipeline.Proofs.Edit.Conflict

namespace PromptPipeline

set_option autoImplicit false

/-! ## Documents -/

namespace Document

/-- An error about the structure of a document. -/
def IsFault (e : ParseError) : Prop := ∃ line fault, e = .document line fault

variable {source : List Char} {x : Extraction} {e : ParseError}

theorem isFault_of_setResult {result : List Char} (failed : x.setResult result = .error e) :
    IsFault e := by
  unfold Extraction.setResult at failed
  repeat' split at failed
  all_goals cases failed
  all_goals exact ⟨_, _, rfl⟩

theorem isFault_of_flush (failed : x.flush source = .error e) : IsFault e := by
  unfold Extraction.flush at failed
  dsimp only at failed
  repeat' split at failed
  · cases failed
  · exact isFault_of_setResult failed
  · cases failed
  · cases failed

theorem isFault_of_tell {starts : List Nat} {event : Markdown.Event}
    (failed : Extraction.tell source starts x event = .error e) : IsFault e := by
  cases event with
  | enter tag offset =>
      cases tag with
      | heading | codeBlock | list =>
          rcases Except.bind_error_iff.1 failed with flushed | ⟨_, -, done⟩
          · exact isFault_of_flush flushed
          · cases done
      | paragraph =>
          dsimp only [Extraction.tell, Extraction.enter, Extraction.openParagraph] at failed
          repeat' split at failed
          · cases failed
          · cases failed
          · rcases Except.bind_error_iff.1 failed with flushed | ⟨_, -, done⟩
            · exact isFault_of_flush flushed
            · cases done
      | _ => cases failed
  | leave tag =>
      cases tag with
      | codeBlock =>
          dsimp only [Extraction.tell, Extraction.leave, Extraction.closeCode] at failed
          repeat' split at failed
          all_goals cases failed
          exact ⟨_, _, rfl⟩
      | paragraph | quote =>
          dsimp only [Extraction.tell, Extraction.leave] at failed
          split at failed
          · cases failed
          · exact isFault_of_flush failed
      | _ => cases failed
  | _ => cases failed

/-- **A source without sections has a fault in its structure.** -/
theorem isFault_of_ofSource {source : String} (failed : ofSource source = .error e) :
    IsFault e := by
  rcases Except.bind_error_iff.1 failed with told | ⟨x, -, finished⟩
  · exact Except.of_foldlM_error (fun _ _ _ => isFault_of_tell) told
  · rcases Except.bind_error_iff.1 finished with flushed | ⟨y, -, done⟩
    · exact isFault_of_flush flushed
    · dsimp only at done
      split at done
      · cases done
      · cases done

end Document

/-! ## Declarations that clash -/

/-- The error is a conflict over a declaration. -/
def CompileError.IsClash (e : CompileError) : Prop :=
  ∃ clash, e.parseError? = some (.conflict clash) ∧ clash.command = Directive.Parameter.name

/-- No two lines of the document declare one parameter. -/
def Document.DeclaresOnce (d : Document) : Prop :=
  ((Compile.declarations d.head d.templates).map Parameter.name).Nodup

instance (d : Document) : Decidable d.DeclaresOnce := inferInstanceAs (Decidable (List.Nodup _))

/-- A source is read as one document. -/
theorem Document.DeclaresOnce.of_read {source : String} {d : Document} (once : d.DeclaresOnce)
    (read : Document.ofSource source = .ok d) :
    ∀ d, Document.ofSource source = .ok d → d.DeclaresOnce := fun _ read' =>
  Except.ok.inj (read.symm.trans read') ▸ once

/-- **A line of a section is reached and declares what a section before results in.**  The
document compiles up to this line, and there with this error. -/
inductive Document.DeclaresLate (options : CompileOptions) (d : Document) : CompileError → Prop
  | intro {done later : List Section} {s : Section} {before after : List CommandLine}
      {line : CommandLine} {keyword name : String}
      (sections : d.templates = done ++ s :: later)
      (lines : s.commands = before ++ line :: after)
      (reached : ∃ p, (Compile.ofDocument { options with validate := false }
        { d with templates := done ++ [{ s with commands := before }] }).value = .ok p)
      (declares : Grammar.Declares .template line.text keyword name)
      (produced : ∃ earlier ∈ done, earlier.produces? = some name) :
      DeclaresLate options d
        (.command (.template s.title) line.line (.conflict (.parameterTwice name)))

/-! ## What is listed -/

theorem Section.exists_list_iff {listed : List Parameter} {s : Section} {name : String} :
    (∃ q ∈ s.list listed, q.name = name)
      ↔ (∃ q ∈ listed ++ s.declarations .template, q.name = name) ∨ s.produces? = some name := by
  unfold Section.list
  generalize listed ++ s.declarations .template = known
  cases produced : s.produces? with
  | none => simp
  | some result =>
      dsimp only
      split
      · rename_i there
        obtain ⟨q, member, named⟩ := List.any_eq_true.1 there
        rw [Option.some_inj]
        constructor
        · exact .inl
        · rintro (known | rfl)
          · exact known
          · exact ⟨q, member, beq_iff_eq.1 named⟩
      · simp [or_and_right, exists_or]

/-- **What is listed after some sections is declared or their result.** -/
theorem exists_listed_iff {listed : List Parameter} {done : List Section} {name : String} :
    (∃ q ∈ done.foldl Section.list listed, q.name = name)
      ↔ (∃ q ∈ listed ++ done.flatMap (Section.declarations .template), q.name = name)
        ∨ ∃ s ∈ done, s.produces? = some name := by
  induction done generalizing listed with
  | nil => simp
  | cons s done ih =>
      have first := @Section.exists_list_iff listed s name
      simp only [List.mem_append, or_and_right, exists_or] at first
      rw [List.foldl_cons, ih, List.flatMap_cons]
      simp only [List.mem_append, List.mem_cons, or_and_right, exists_or, exists_eq_left, first,
        or_assoc]
      exact or_congr_right (or_congr_right or_left_comm)

/-! ## Lines that clash -/

/-- What an edit does to the parameters: it appends what the command declares, and a conflict
over a declaration is that this is there already. -/
structure Declaring {σ : Type} (apply : Command → Edit σ) (parameters : σ → List Parameter) :
    Prop where
  declares : ∀ c x x', (apply c x).value = .ok x' →
    parameters x' = parameters x ++ c.declared?.toList
  clashes : ∀ c x r clash, (apply c x).value = .error r → r.error = .conflict clash →
    clash.command = Directive.Parameter.name →
      ∃ q : Parameter, c = q.command ∧ clash = .parameterTwice q.name
        ∧ ∃ q' ∈ parameters x, q'.name = q.name

theorem declaring_head : Declaring Grammar.standard.applyToHead Pipeline.parameters where
  declares _ _ _ applied := (applyToHead_ok_iff.1 applied).parameters
  clashes _ _ _ _ failed := (headRefusal_of_error failed).declares

theorem declaring_template :
    Declaring Grammar.standard.applyToTemplate (fun d => d.pipeline.parameters) where
  declares _ _ _ applied := (applyToTemplate_ok_iff.1 applied).parameters
  clashes _ _ _ _ failed := (templateRefusal_of_error failed).declares

namespace Compile

section

variable {σ : Type} {place : Place} {part : Part} {apply : Command → Edit σ}
  {parameters : σ → List Parameter} {s : Section} {x x' : σ} {e : CompileError}

/-- Lines declare what their section does. -/
theorem parameters_of_lines (declaring : Declaring apply parameters)
    (ran : (s.commands.foldlM (applyLine place part apply) x).value = .ok x') :
    parameters x' = parameters x ++ s.declarations place :=
  ((applyLines_ok_iff fun _ _ _ => Iff.rfl).1 ran).2.parameters parameters declaring.declares

/-- **A line that clashes declares a parameter that is there**, or that a line before it in
its section declares. -/
theorem clash_of_lines (declaring : Declaring apply parameters)
    (failed : (s.commands.foldlM (applyLine place part apply) x).value = .error e)
    (isClash : e.IsClash) :
    ∃ before line after, ∃ q : Parameter, s.commands = before ++ line :: after
      ∧ (∃ m, (before.foldlM (applyLine place part apply) x).value = .ok m)
      ∧ Grammar.standard.parse line.text place = .ok q.command
      ∧ e = .command part line.line (.conflict (.parameterTwice q.name))
      ∧ ∃ q' ∈ parameters x ++ Section.declarations place { s with commands := before },
        q'.name = q.name := by
  obtain ⟨before, line, after, m, lines, ran, failed⟩ := Logged.foldlM_error_iff.1 failed
  obtain ⟨error, rfl, reason⟩ := applyLine_error_iff.1 failed
  obtain ⟨clash, is, about⟩ := isClash
  obtain rfl : error = .conflict clash := Option.some.inj is
  rcases reason with unread | ⟨c, r, read, refused, is⟩
  · exact absurd unread Grammar.parse_ne_conflict
  · obtain ⟨q, rfl, rfl, taken⟩ := declaring.clashes c m r clash refused is about
    rw [parameters_of_lines (s := { s with commands := before }) declaring ran] at taken
    exact ⟨before, line, after, q, lines, ⟨m, ran⟩, read, rfl, taken⟩

/-- The declarations of a section up to a declaring line, that of the line, and those behind. -/
theorem declarations_split {before after : List CommandLine} {line : CommandLine} {q : Parameter}
    (lines : s.commands = before ++ line :: after)
    (read : Grammar.standard.parse line.text place = .ok q.command) :
    s.declarations place
      = Section.declarations place { s with commands := before }
        ++ q :: Section.declarations place { s with commands := after } := by
  unfold Section.declarations Section.said
  rw [lines, List.filterMap_append, List.filterMap_cons, read, List.filterMap_append]
  rfl

end

/-! ## Stages that clash -/

variable {options : CompileOptions} {d : Document} {p : Pipeline} {x : Progress} {s : Section}
  {e : CompileError}

/-- The pipeline that the head's commands are applied to. -/
def blank (d : Document) : Pipeline :=
  { Pipeline.new (d.title.getD "") with description := d.head.description }

/-- A head that clashes does so at a line, for else it fails with its code. -/
theorem lines_of_compileHead {head : Section}
    (failed : (compileHead options head p).value = .error e) (isClash : e.IsClash) :
    (head.commands.foldlM (applyLine .head .head Grammar.standard.applyToHead) p).value
      = .error e := by
  obtain ⟨_, is, -⟩ := isClash
  rcases compileHead_error_iff.1 failed with ⟨-, block, -, rfl⟩ | ⟨-, lines⟩
  · cases is
  · exact lines

theorem compileTemplate_clash_iff (isClash : e.IsClash) :
    (compileTemplate p s).value = .error e
      ↔ ∃ t, startTemplate s = .ok t
        ∧ (s.commands.foldlM
            (applyLine .template (.template s.title) Grammar.standard.applyToTemplate)
            ⟨t, p⟩).value = .error e := by
  refine compileTemplate_error_iff.trans (or_iff_right ?_)
  rintro ⟨fault, -, rfl⟩
  obtain ⟨_, is, -⟩ := isClash
  cases is

/-- Behind the sections there are only violations to fail with. -/
theorem ofDocument_clash_iff (isClash : e.IsClash) :
    (ofDocument options d).value = .error e
      ↔ (compileHead options d.head (blank d)).value = .error e
        ∨ ∃ p, (compileHead options d.head (blank d)).value = .ok p
          ∧ (d.templates.foldlM addSection ⟨p, []⟩).value = .error e := by
  refine ofDocument_error_iff.trans <| or_congr_right <| exists_congr fun p =>
    and_congr_right fun _ => or_iff_left ?_
  rintro ⟨x, -, -, violations, -, rfl⟩
  obtain ⟨_, is, -⟩ := isClash
  cases is

/-- A document compiles up to a line if the head, the sections and the lines before it do. -/
theorem ofDocument_upTo_ok_iff {done : List Section} {before : List CommandLine} :
    (∃ p, (ofDocument { options with validate := false }
        { d with templates := done ++ [{ s with commands := before }] }).value = .ok p)
      ↔ ∃ p x t draft, (compileHead options d.head (blank d)).value = .ok p
        ∧ (done.foldlM addSection ⟨p, []⟩).value = .ok x ∧ startTemplate s = .ok t
        ∧ (before.foldlM
            (applyLine .template (.template s.title) Grammar.standard.applyToTemplate)
            ⟨t, x.pipeline⟩).value = .ok draft := by
  have sameStart : startTemplate { s with commands := before } = startTemplate s := rfl
  constructor
  · rintro ⟨_, compiled⟩
    obtain ⟨p, _, head, sections, -, -⟩ := ofDocument_ok_iff.1 compiled
    obtain ⟨x, ran, added⟩ := Logged.foldlM_concat_ok_iff.1 sections
    obtain ⟨_, made, -⟩ := addSection_ok_iff.1 added
    obtain ⟨t, draft, started, lines, -⟩ := compileTemplate_ok_iff.1 made
    exact ⟨p, x, t, draft, head, ran, sameStart ▸ started, lines⟩
  · rintro ⟨p, x, t, draft, head, ran, started, lines⟩
    have made := compileTemplate_ok_iff (s := { s with commands := before }).2
      ⟨t, draft, sameStart ▸ started, lines, rfl⟩
    have added := addSection_ok_iff.2 ⟨_, made, rfl⟩
    have sections := Logged.foldlM_concat_ok_iff.2 ⟨x, ran, added⟩
    exact ⟨_, ofDocument_ok_iff.2 ⟨p, _, head, sections, nofun, rfl⟩⟩

/-- What is listed when a section is reached: what is declared and the results before it. -/
theorem exists_reached_iff {done : List Section} {name : String}
    (head : (compileHead options d.head (blank d)).value = .ok p)
    (ran : (done.foldlM addSection ⟨p, []⟩).value = .ok x) :
    (∃ q ∈ x.pipeline.parameters, q.name = name)
      ↔ (∃ q ∈ declarations d.head done, q.name = name)
        ∨ ∃ s ∈ done, s.produces? = some name := by
  have listed : Listed d.head done x :=
    addSections_keep (fun _ _ _ _ => listed_addSection) ran (listed_compileHead head)
  rw [listed.parameters, exists_listed_iff]
  rfl

section

variable {before after : List CommandLine} {line : CommandLine} {q : Parameter}

/-- What a line of the head declares, no line before it does. -/
theorem free_in_head (once : d.DeclaresOnce) (lines : d.head.commands = before ++ line :: after)
    (read : Grammar.standard.parse line.text .head = .ok q.command) :
    ∀ q' ∈ Section.declarations .head { d.head with commands := before }, q'.name ≠ q.name := by
  unfold Document.DeclaresOnce declarations at once
  rw [declarations_split lines read, List.append_assoc] at once
  exact fun q' member => (ne_of_nodup_append once member List.mem_cons_self).symm

/-- What a line of a section declares, no line before it does. -/
theorem free_in_section {done later : List Section} (once : d.DeclaresOnce)
    (sections : d.templates = done ++ s :: later) (lines : s.commands = before ++ line :: after)
    (read : Grammar.standard.parse line.text .template = .ok q.command) :
    ∀ q' ∈ declarations d.head done ++ Section.declarations .template { s with commands := before },
      q'.name ≠ q.name := by
  unfold Document.DeclaresOnce declarations at once
  rw [sections, List.flatMap_append, List.flatMap_cons, declarations_split lines read,
    List.append_assoc, ← List.append_assoc, ← List.append_assoc] at once
  exact fun q' member => (ne_of_nodup_append once member List.mem_cons_self).symm

end

/-- A document that declares each parameter once clashes where one is declared late. -/
theorem declaresLate_of_clash (once : d.DeclaresOnce)
    (failed : (ofDocument options d).value = .error e) (isClash : e.IsClash) :
    d.DeclaresLate options e := by
  rcases (ofDocument_clash_iff isClash).1 failed with failed | ⟨p, head, failed⟩
  · obtain ⟨before, line, after, q, lines, -, read, -, q', member, named⟩ :=
      clash_of_lines declaring_head (lines_of_compileHead failed isClash) isClash
    exact absurd named (free_in_head once lines read q' member)
  · obtain ⟨done, s, later, x, sections, ran, failed⟩ := Logged.foldlM_error_iff.1 failed
    obtain ⟨t, started, failed⟩ :=
      (compileTemplate_clash_iff isClash).1 (addSection_error_iff.1 failed)
    obtain ⟨before, line, after, q, lines, ⟨draft, prefixed⟩, read, rfl, q', member, named⟩ :=
      clash_of_lines declaring_template failed isClash
    have free := free_in_section once sections lines read
    -- No line before declares what is there, so it is a result.
    have produced : ∃ earlier ∈ done, earlier.produces? = some q.name := by
      rcases List.mem_append.1 member with reached | same
      · rcases (exists_reached_iff head ran).1 ⟨q', reached, named⟩ with ⟨r, there, alike⟩ | result
        · exact absurd alike (free r (List.mem_append_left _ there))
        · exact result
      · exact absurd named (free q' (List.mem_append_right _ same))
    obtain ⟨keyword, is, -⟩ := Grammar.keyword?_of_parse read
    exact .intro sections lines
      (ofDocument_upTo_ok_iff.2 ⟨p, x, t, draft, head, ran, started, prefixed⟩)
      ⟨is, _, _, _, read⟩ produced

/-- A document clashes where a parameter is declared late. -/
theorem clash_of_declaresLate (late : d.DeclaresLate options e) :
    (ofDocument options d).value = .error e ∧ e.IsClash := by
  obtain ⟨sections, lines, reached, ⟨-, description, isInput, isOutput, read⟩, produced⟩ := late
  rename_i done later s before after line keyword name
  obtain ⟨p, x, t, draft, head, ran, started, prefixed⟩ := ofDocument_upTo_ok_iff.1 reached
  have isClash : CompileError.IsClash
      (.command (.template s.title) line.line (.conflict (.parameterTwice name))) :=
    ⟨_, rfl, rfl⟩
  have taken : ∃ q ∈ draft.pipeline.parameters, q.name = name := by
    obtain ⟨q, member, named⟩ := (exists_reached_iff head ran).2 (.inr produced)
    have parameters := parameters_of_lines (s := { s with commands := before })
      declaring_template prefixed
    exact ⟨q, parameters ▸ List.mem_append_left _ member, named⟩
  have refused : (applyLine .template (.template s.title) Grammar.standard.applyToTemplate draft
      line).value = .error (.command (.template s.title) line.line
        (.conflict (.parameterTwice name))) := by
    refine applyLine_error_iff.2 ⟨_, rfl, .inr ⟨_, ⟨_, draft⟩, read, ?_, rfl⟩⟩
    rw [Grammar.applyToTemplate_standard rfl]
    have there := parameter?_isSome_iff.2 taken
    simp [Directive.Parameter.onTemplate, Edit.onPipeline, Directive.Parameter.onHead, there,
      refuse]
  have failed := Logged.foldlM_error_iff.2 ⟨before, line, after, draft, lines, prefixed, refused⟩
  have made := (compileTemplate_clash_iff isClash).2 ⟨t, started, failed⟩
  have added := Logged.foldlM_error_iff.2
    ⟨done, s, later, x, sections, ran, addSection_error_iff.2 made⟩
  exact ⟨(ofDocument_clash_iff isClash).2 (.inr ⟨p, head, added⟩), isClash⟩

end Compile

/-- **When a source that declares each parameter once clashes**: exactly when a section declares
a parameter that a section before it results in. -/
theorem compile_clash_iff {options : CompileOptions} {source : String} {e : CompileError}
    (once : ∀ d, Document.ofSource source = .ok d → d.DeclaresOnce) :
    (compile options source).value = .error e ∧ e.IsClash
      ↔ ∃ d, Document.ofSource source = .ok d ∧ d.DeclaresLate options e := by
  rw [compile_error_iff]
  constructor
  · rintro ⟨⟨_, faulty, rfl⟩ | ⟨d, read, failed⟩, isClash⟩
    · obtain ⟨_, _, rfl⟩ := Document.isFault_of_ofSource faulty
      obtain ⟨_, is, -⟩ := isClash
      cases is
    · exact ⟨d, read, Compile.declaresLate_of_clash (once d read) failed isClash⟩
  · rintro ⟨d, read, late⟩
    obtain ⟨failed, isClash⟩ := Compile.clash_of_declaresLate late
    exact ⟨.inr ⟨d, read, failed⟩, isClash⟩

/-- The result of one section, declared in the next one. -/
theorem compile_clash_next :
    let source := "# T\n## P\n```\nx\n```\n-> {b}\n## Q\n- PARAMETER {b}\n```\ny\n```\n-> {c}\n"
    let e := CompileError.command (.template "Q") 8 (.conflict (.parameterTwice "b"))
    (∀ d, Document.ofSource source = .ok d → d.DeclaresOnce) ∧ (compile {} source).value = .error e
      ∧ ∃ d, Document.ofSource source = .ok d ∧ d.DeclaresLate {} e := by
  intro source e
  let d : Document := {
    title := some "T"
    head := {}
    templates := [
      { title := "P", line := 2, code := [⟨none, "x", 3⟩], result := some "{b}" },
      { title := "Q", line := 7, commands := [⟨"PARAMETER {b}", 8⟩], code := [⟨none, "y", 9⟩],
        result := some "{c}" }] }
  have read : Document.ofSource source = .ok d := by decide +kernel
  have once : d.DeclaresOnce := by decide +kernel
  have clashes : (Compile.ofDocument {} d).value = .error e := by decide +kernel
  have failed : (compile {} source).value = .error e :=
    compile_error_iff.2 (.inr ⟨d, read, clashes⟩)
  have isClash : e.IsClash := ⟨_, rfl, rfl⟩
  exact ⟨once.of_read read, failed, (compile_clash_iff (once.of_read read)).1 ⟨failed, isClash⟩⟩

/-- **Declared once and refused as declared more than once.** -/
theorem compile_clash_once :
    let source :=
      "# T\n\n## A\n\n```\nx\n```\n\n-> {r}\n\n## B\n\n- OUTPUT PARAMETER {r}\n\n```\ny\n```\n\n-> {s}\n"
    let e := CompileError.command (.template "B") 13 (.conflict (.parameterTwice "r"))
    (∀ d, Document.ofSource source = .ok d → d.DeclaresOnce) ∧ (compile {} source).value = .error e
      ∧ e.IsClash := by
  intro source e
  let d : Document := {
    title := some "T"
    head := {}
    templates := [
      { title := "A", line := 3, code := [⟨none, "x", 5⟩], result := some "{r}" },
      { title := "B", line := 11, commands := [⟨"OUTPUT PARAMETER {r}", 13⟩],
        code := [⟨none, "y", 15⟩], result := some "{s}" }] }
  have read : Document.ofSource source = .ok d := by decide +kernel
  have once : d.DeclaresOnce := by decide +kernel
  have clashes : (Compile.ofDocument {} d).value = .error e := by decide +kernel
  exact ⟨once.of_read read, compile_error_iff.2 (.inr ⟨d, read, clashes⟩), _, rfl, rfl⟩

end PromptPipeline
