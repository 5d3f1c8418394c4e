/-
# Proofs.Compile.Declarations -- where the parameters of a pipeline come from

The parameters of a compiled pipeline are those that the head declares, and then section by
section those that it declares and its result, unless this is there already
(`Document.listing`).  `Listed` accounts for every parameter while sections are added: it
was declared, or it is a result that nobody had declared by then.  No later section can
declare such a result, for names are distinct.  So what is undeclared at the end is what
linking may make an output (`compile_parameters`).
-/
import PromptPipeline.Proofs.Compile.Established
import PromptPipeline.Proofs.Compile.Section
import PromptPipeline.Proofs.Edit.Setting
import PromptPipeline.Proofs.Grammar.Arguments

namespace PromptPipeline

set_option autoImplicit false

/-! ## Declaring lines -/

namespace Grammar

/-- The keyword of a line. -/
def keyword? (line : String) : Option String :=
  (standard.matchKeyword ((Token.ofLine (Text.trim line)).map (·.text))).map (·.keyword)

/-- The line declares a parameter under a keyword. -/
def Declares (place : Place) (line keyword name : String) : Prop :=
  keyword? line = some keyword
    ∧ ∃ description isInput isOutput,
      standard.parse line place = .ok (.parameter name description isInput isOutput)

/-- The keywords of declarations say their direction. -/
theorem direction_of_lookup {keyword : String}
    (owned : keywordTable.lookup keyword = some Directive.parameter) :
    (Text.startsWith "INPUT" keyword = true ↔ keyword = "INPUT_PARAMETER")
      ∧ (Text.startsWith "OUTPUT" keyword = true ↔ keyword = "OUTPUT_PARAMETER") := by
  have table : ∀ x ∈ keywordTable.map named, x.2 = "PARAMETER" →
      (Text.startsWith "INPUT" x.1 = true ↔ x.1 = "INPUT_PARAMETER")
        ∧ (Text.startsWith "OUTPUT" x.1 = true ↔ x.1 = "OUTPUT_PARAMETER") := by
    decide +kernel
  obtain ⟨before, after, split, -⟩ := List.lookup_eq_some_iff.1 owned
  have member : (keyword, Directive.parameter) ∈ keywordTable := split ▸ by simp
  exact table _ (List.mem_map_of_mem member) rfl

/-- The keyword of a declaration says its direction. -/
theorem keyword?_of_parse {line name : String} {place : Place} {description : Option String}
    {isInput isOutput : Bool}
    (parsed : standard.parse line place = .ok (.parameter name description isInput isOutput)) :
    ∃ keyword, keyword? line = some keyword ∧ (isInput = true ↔ keyword = "INPUT_PARAMETER")
      ∧ (isOutput = true ↔ keyword = "OUTPUT_PARAMETER") := by
  obtain ⟨-, found, matched, -, read⟩ := parse_ok_iff.1 parsed
  have owned := matchUpTo_directive matched
  have is := owner_of_parse (mem_of_lookup build_catalog owned) read
  rw [is] at owned read
  rw [keywords_standard] at owned
  dsimp only [owner, Command.kind, Directive.parameter] at read
  obtain ⟨_, _, _, -, -, same⟩ := Directive.Parameter.parse_ok_iff.1 read
  obtain ⟨-, -, rfl, rfl⟩ := Command.parameter.inj same
  refine ⟨found.keyword, ?_, direction_of_lookup owned⟩
  rw [keyword?, matched]
  rfl

end Grammar

/-! ## Declarations of a section -/

/-- The parameters that a section declares, in order. -/
def Section.declarations (place : Place) (s : Section) : List Parameter :=
  (s.said place).filterMap Command.declared?

/-- The parameters with those of one more section: its declarations, then its result if it is
not listed. -/
def Section.list (listed : List Parameter) (s : Section) : List Parameter :=
  let listed := listed ++ s.declarations .template
  match s.produces? with
  | some result =>
      if listed.any (·.name == result) then listed else listed ++ [{ name := result }]
  | none => listed

/-- The parameters of a document in the order in which they come up. -/
def Document.listing (d : Document) : List Parameter :=
  d.templates.foldl Section.list (d.head.declarations .head)

/-- Some line of the document declares a parameter under a keyword. -/
def Document.Declares (d : Document) (keyword name : String) : Prop :=
  (∃ line ∈ d.head.commands, Grammar.Declares .head line.text keyword name)
    ∨ ∃ s ∈ d.templates, ∃ line ∈ s.commands, Grammar.Declares .template line.text keyword name

theorem Section.mem_declarations_iff {place : Place} {s : Section} {q : Parameter} :
    q ∈ s.declarations place
      ↔ ∃ line ∈ s.commands, Grammar.standard.parse line.text place
        = .ok (.parameter q.name q.description q.isInput q.isOutput) := by
  unfold Section.declarations Section.said
  simp only [List.mem_filterMap]
  constructor
  · rintro ⟨c, ⟨line, inside, read⟩, declared⟩
    cases c with
    | parameter name description isInput isOutput =>
        cases declared
        refine ⟨line, inside, ?_⟩
        cases parsed : Grammar.standard.parse line.text place with
        | error e =>
            rw [parsed] at read
            cases read
        | ok c =>
            rw [parsed] at read
            cases read
            rfl
    | _ => cases declared
  · rintro ⟨line, inside, parsed⟩
    exact ⟨_, ⟨line, inside, by rw [parsed]; rfl⟩, rfl⟩

/-! ## Commands -/

theorem HeadStep.parameters {c : Command} {p p' : Pipeline} (step : HeadStep c p p') :
    p'.parameters = p.parameters ++ c.declared?.toList := by
  cases step with
  | parameter => rfl
  | url | version | modelVariant | modelName | persona => exact (List.append_nil _).symm
  | knowledge registered =>
      rcases Directive.Knowledge.register_ok_iff.1 registered with ⟨_, -, -, rfl⟩ | ⟨-, rfl⟩
      · exact (List.append_nil _).symm
      · exact (List.append_nil _).symm

theorem TemplateStep.parameters {c : Command} {d d' : Draft} (step : TemplateStep c d d') :
    d'.pipeline.parameters = d.pipeline.parameters ++ c.declared?.toList := by
  cases step with
  | parameter declared => exact declared.parameters
  | knowledge registered => exact (HeadStep.knowledge registered).parameters
  | _ => exact (List.append_nil _).symm

/-- A run declares what its commands do. -/
theorem Steps.parameters {σ : Type} {step : Command → σ → σ → Prop}
    (parameters : σ → List Parameter)
    (one : ∀ c s s', step c s s' → parameters s' = parameters s ++ c.declared?.toList)
    {cs : List Command} {s s' : σ} (run : Steps step cs s s') :
    parameters s' = parameters s ++ cs.filterMap Command.declared? := by
  refine run.keeps_done (I := fun done m =>
    parameters m = parameters s ++ done.filterMap Command.declared?) ?_ (List.append_nil _).symm
  intro done c m m' h before
  rw [filterMap_concat, ← List.append_assoc, ← before]
  exact one c m m' h

theorem TemplateStep.result_of_steps {cs : List Command} {d d' : Draft}
    (run : Steps TemplateStep cs d d') : d'.template.result = d.template.result :=
  run.kept (fun x => x.template.result) fun _ _ _ step => step.result

namespace Compile

/-! ## Sections -/

/-- The parameters that a head and sections declare. -/
def declarations (head : Section) (done : List Section) : List Parameter :=
  head.declarations .head ++ done.flatMap (Section.declarations .template)

/-- Where the parameters come from: they are declared, or results that nobody has declared. -/
structure Sourced (known : List Parameter) (x : Progress) : Prop where
  established : x.pipeline.Established
  declared : ∀ q ∈ known, q ∈ x.pipeline.parameters
  implicit : ∀ name ∈ x.implicit, { name := name } ∈ x.pipeline.parameters
  fresh : ∀ name ∈ x.implicit, ∀ q ∈ known, q.name ≠ name
  origin : ∀ q ∈ x.pipeline.parameters,
    q ∈ known ∨ q = { name := q.name } ∧ q.name ∈ x.implicit

/-- Where the parameters come from and how they are ordered after some sections. -/
structure Listed (head : Section) (done : List Section) (x : Progress) : Prop
    extends Sourced (declarations head done) x where
  parameters : x.pipeline.parameters = done.foldl Section.list (head.declarations .head)

theorem listed_compileHead {options : CompileOptions} {head : Section} {title : String}
    {description : Option String} {p : Pipeline}
    (compiled : (compileHead options head { Pipeline.new title with description }).value = .ok p) :
    Listed head [] ⟨p, []⟩ := by
  obtain ⟨-, -, run⟩ := compileHead_iff_steps.1 compiled
  have is : p.parameters = declarations head [] := by
    rw [run.parameters Pipeline.parameters fun _ _ _ step => step.parameters,
      declarations, List.flatMap_nil, List.append_nil]
    rfl
  have noSection : declarations head [] = head.declarations .head := List.append_nil _
  exact {
    established := established_compileHead compiled
    parameters := is.trans noSection
    declared := fun q member => is ▸ member
    implicit := fun _ h => nomatch h
    fresh := fun _ h => nomatch h
    origin := fun q member => .inl (is ▸ member) }

theorem declarations_concat (head : Section) (done : List Section) (s : Section) :
    declarations head (done ++ [s]) = declarations head done ++ s.declarations .template := by
  rw [declarations, declarations, List.flatMap_append, List.flatMap_singleton, List.append_assoc]

/-- No two parameters of different places in a list of distinct names are named alike. -/
theorem ne_of_nodup_append {l l' : List Parameter}
    (distinct : ((l ++ l').map Parameter.name).Nodup) {q q' : Parameter} (member : q ∈ l)
    (member' : q' ∈ l') : q'.name ≠ q.name := by
  rw [List.map_append, List.nodup_append] at distinct
  exact (distinct.2.2 _ (List.mem_map_of_mem member) _ (List.mem_map_of_mem member')).symm

section

variable {known more : List Parameter} {x : Progress}

/-- A result that was not declared before is listed, so the next section cannot declare it. -/
theorem Sourced.declare (sourced : Sourced known x) {p : Pipeline} (established : p.Established)
    (parameters : p.parameters = x.pipeline.parameters ++ more) :
    Sourced (known ++ more) { x with pipeline := p } where
  established := established
  declared := by
    rw [parameters]
    exact List.forall_mem_append.2
      ⟨fun q member => List.mem_append_left _ (sourced.declared q member),
        fun q member => List.mem_append_right _ member⟩
  implicit := by
    rw [parameters]
    exact fun name member => List.mem_append_left _ (sourced.implicit name member)
  fresh := by
    have distinct := established.coherent.parameters
    rw [parameters] at distinct
    intro name member
    refine List.forall_mem_append.2 ⟨sourced.fresh name member, fun q here => ?_⟩
    exact ne_of_nodup_append distinct (sourced.implicit name member) here
  origin := by
    rw [parameters]
    refine List.forall_mem_append.2 ⟨fun q member => ?_, fun q member => ?_⟩
    · exact (sourced.origin q member).imp_left (List.mem_append_left _)
    · exact .inl (List.mem_append_right _ member)

/-- The result of a finished template is declared or becomes a parameter. -/
theorem Sourced.add (sourced : Sourced known x) {t : Template}
    (established : (x.add t).pipeline.Established) : Sourced known (x.add t) := by
  unfold Progress.add at established ⊢
  dsimp only at established ⊢
  split at established
  · rename_i listed
    rw [if_pos listed]
    exact { sourced with established := established }
  · rename_i missing
    have free : ∀ q ∈ x.pipeline.parameters, q.name ≠ t.result :=
      fun q inside same => missing (parameter?_isSome_iff.2 ⟨q, inside, same⟩)
    rw [if_neg missing]
    exact {
      established := established
      declared := fun q member => List.mem_append_left _ (sourced.declared q member)
      implicit := List.forall_mem_append.2
        ⟨fun name member => List.mem_append_left _ (sourced.implicit name member),
          List.forall_mem_singleton.2 (List.mem_append_right _ List.mem_cons_self)⟩
      fresh := List.forall_mem_append.2
        ⟨sourced.fresh,
          List.forall_mem_singleton.2 fun q member => free q (sourced.declared q member)⟩
      origin := List.forall_mem_append.2
        ⟨fun q member =>
          (sourced.origin q member).imp_right (And.imp_right (List.mem_append_left _)),
          List.forall_mem_singleton.2
            (.inr ⟨rfl, List.mem_append_right _ List.mem_cons_self⟩)⟩ }

theorem parameters_add (x : Progress) (t : Template) :
    (x.add t).pipeline.parameters
      = if x.pipeline.parameters.any (·.name == t.result) then x.pipeline.parameters
        else x.pipeline.parameters ++ [{ name := t.result }] := by
  unfold Progress.add Pipeline.parameter?
  simp only [List.isSome_find?]
  split
  · rfl
  · rfl

end

theorem listed_addSection {head : Section} {done : List Section} {s : Section} {x x' : Progress}
    (added : (addSection x s).value = .ok x') (listed : Listed head done x) :
    Listed head (done ++ [s]) x' := by
  have established := established_addSection added listed.established
  obtain ⟨draft, compiled, rfl⟩ := addSection_ok_iff.1 added
  have drafted := (established_compileTemplate compiled listed.established).1.pipeline
  obtain ⟨t, draft, started, -, run, rfl⟩ := compileTemplate_iff_steps.1 compiled
  have parameters : draft.pipeline.parameters
      = x.pipeline.parameters ++ s.declarations .template :=
    run.parameters (fun d => d.pipeline.parameters) fun _ _ _ step => step.parameters
  have produced : s.produces? = some draft.template.result := by
    rw [produces?_of_startTemplate started, TemplateStep.result_of_steps run]
  have sourced := (listed.declare drafted parameters).add established
  rw [← declarations_concat] at sourced
  refine { sourced with parameters := ?_ }
  rw [List.foldl_append, List.foldl_cons, List.foldl_nil, ← listed.parameters, Section.list,
    produced, ← parameters]
  exact parameters_add _ _

end Compile

/-! ## Declarations of a document -/

/-- A parameter that has the direction of a keyword. -/
def Parameter.Directed (q : Parameter) (keyword : String) : Prop :=
  (q.isInput = true ↔ keyword = "INPUT_PARAMETER")
    ∧ (q.isOutput = true ↔ keyword = "OUTPUT_PARAMETER")

theorem Section.declares_of_mem {place : Place} {s : Section} {q : Parameter}
    (member : q ∈ s.declarations place) :
    ∃ keyword, (∃ line ∈ s.commands, Grammar.Declares place line.text keyword q.name)
      ∧ q.Directed keyword := by
  obtain ⟨line, inside, parsed⟩ := Section.mem_declarations_iff.1 member
  obtain ⟨keyword, is, directed⟩ := Grammar.keyword?_of_parse parsed
  exact ⟨keyword, ⟨line, inside, is, _, _, _, parsed⟩, directed⟩

theorem Section.mem_of_declares {place : Place} {s : Section} {keyword name : String}
    (declares : ∃ line ∈ s.commands, Grammar.Declares place line.text keyword name) :
    ∃ q ∈ s.declarations place, q.name = name ∧ q.Directed keyword := by
  obtain ⟨line, inside, is, description, isInput, isOutput, parsed⟩ := declares
  obtain ⟨keyword', is', directed⟩ := Grammar.keyword?_of_parse parsed
  obtain rfl : keyword' = keyword := Option.some.inj (is'.symm.trans is)
  exact ⟨⟨name, description, isInput, isOutput⟩,
    Section.mem_declarations_iff.2 ⟨line, inside, parsed⟩, rfl, directed⟩

theorem Document.declares_of_mem {d : Document} {q : Parameter}
    (member : q ∈ Compile.declarations d.head d.templates) :
    ∃ keyword, d.Declares keyword q.name ∧ q.Directed keyword := by
  rcases List.mem_append.1 member with head | later
  · obtain ⟨keyword, declares, directed⟩ := Section.declares_of_mem head
    exact ⟨keyword, .inl declares, directed⟩
  · obtain ⟨s, inside, here⟩ := List.mem_flatMap.1 later
    obtain ⟨keyword, declares, directed⟩ := Section.declares_of_mem here
    exact ⟨keyword, .inr ⟨s, inside, declares⟩, directed⟩

theorem Document.mem_of_declares {d : Document} {keyword name : String}
    (declares : d.Declares keyword name) :
    ∃ q ∈ Compile.declarations d.head d.templates, q.name = name ∧ q.Directed keyword := by
  rcases declares with head | ⟨s, inside, here⟩
  · obtain ⟨q, member, named, directed⟩ := Section.mem_of_declares head
    exact ⟨q, List.mem_append_left _ member, named, directed⟩
  · obtain ⟨q, member, named, directed⟩ := Section.mem_of_declares here
    exact ⟨q, List.mem_append_right _ (List.mem_flatMap.2 ⟨s, inside, member⟩), named, directed⟩

namespace Compile

variable {d : Document} {x : Progress} {q : Parameter} {keyword : String}

/-- Who declares a listed parameter gives it its direction. -/
theorem Listed.directed_of_declares (listed : Listed d.head d.templates x)
    (member : q ∈ x.pipeline.parameters) (declares : d.Declares keyword q.name) :
    q.Directed keyword := by
  obtain ⟨q', declared, named, directed⟩ := Document.mem_of_declares declares
  obtain rfl := List.inj_on_of_nodup_map listed.established.coherent.parameters
    (listed.declared q' declared) member named
  exact directed

/-- A listed parameter is declared, or it is one that nobody declares. -/
theorem Listed.declares_or (listed : Listed d.head d.templates x)
    (member : q ∈ x.pipeline.parameters) :
    (∃ keyword, d.Declares keyword q.name ∧ q.Directed keyword)
      ∨ q = { name := q.name } ∧ q.name ∈ x.implicit :=
  (listed.origin q member).imp_left Document.declares_of_mem

theorem Listed.not_declares (listed : Listed d.head d.templates x) {name : String}
    (implicit : name ∈ x.implicit) : ¬d.Declares keyword name := fun declares => by
  obtain ⟨q, declared, named, -⟩ := Document.mem_of_declares declares
  exact listed.fresh name implicit q declared named

theorem isConsumed_eq_false_iff {p : Pipeline} {name : String} :
    isConsumed p name = false ↔ ∀ t ∈ p.templates, name ∉ t.dependents := by
  simp [isConsumed, NameSet.contains]

/-- **The direction of a linked parameter.** -/
theorem Listed.direction (listed : Listed d.head d.templates x) (member : q ∈ x.link.parameters) :
    (q.isInput = true ↔ d.Declares "INPUT_PARAMETER" q.name)
      ∧ (q.isOutput = true ↔ d.Declares "OUTPUT_PARAMETER" q.name
        ∨ (∀ keyword, ¬d.Declares keyword q.name)
          ∧ ∀ t ∈ x.link.templates, q.name ∉ t.dependents) := by
  have templates : x.link.templates = x.pipeline.templates := rfl
  rw [templates, ← isConsumed_eq_false_iff]
  obtain ⟨q, inside, rfl⟩ := List.mem_map.1 member
  rcases listed.declares_or inside with ⟨keyword, declares, directed⟩ | ⟨plain, implicit⟩
  · -- A declared parameter stays as it was declared.
    have notImplicit : x.implicit.contains q.name = false := by
      refine Bool.eq_false_iff.2 fun contains => ?_
      exact listed.not_declares (List.contains_iff_mem.1 contains) declares
    rw [notImplicit, Bool.false_and, if_neg Bool.false_ne_true]
    constructor
    · constructor
      · intro input
        exact directed.1.1 input ▸ declares
      · intro input
        exact (listed.directed_of_declares inside input).1.2 rfl
    · constructor
      · intro output
        exact .inl (directed.2.1 output ▸ declares)
      · rintro (output | ⟨undeclared, -⟩)
        · exact (listed.directed_of_declares inside output).2.2 rfl
        · exact absurd declares (undeclared keyword)
  · -- A result that nobody declares is an output if nobody depends on it.
    have undeclared : ∀ keyword, ¬d.Declares keyword q.name :=
      fun _ => listed.not_declares implicit
    have noInput : q.isInput = false := congrArg Parameter.isInput plain
    have noOutput : q.isOutput = false := congrArg Parameter.isOutput plain
    rw [List.contains_iff_mem.2 implicit, Bool.true_and]
    cases consumed : isConsumed x.pipeline q.name with
    | true => simp [undeclared, noInput, noOutput, consumed]
    | false => simp [undeclared, noInput, consumed]

end Compile

/-- **The parameters of a compiled pipeline** are the listing of its document, in this order
and each once.  The inputs are those that are declared as inputs; the outputs are those that
are declared as outputs and the results that nobody declares and no template depends on. -/
theorem compile_parameters {options : CompileOptions} {source : String} {p : Pipeline}
    (compiled : (compile options source).value = .ok p) :
    ∃ d, Document.ofSource source = .ok d
      ∧ p.parameters.map (fun q => (q.name, q.description))
        = d.listing.map (fun q => (q.name, q.description))
      ∧ (p.parameters.map Parameter.name).Nodup
      ∧ ∀ q ∈ p.parameters,
        (q.isInput = true ↔ d.Declares "INPUT_PARAMETER" q.name)
          ∧ (q.isOutput = true ↔ d.Declares "OUTPUT_PARAMETER" q.name
            ∨ (∀ keyword, ¬d.Declares keyword q.name)
              ∧ ∀ t ∈ p.templates, q.name ∉ t.dependents) := by
  obtain ⟨d, read, compiled⟩ := compile_ok_iff.1 compiled
  obtain ⟨p₀, x, head, sections, -, rfl⟩ := Compile.ofDocument_ok_iff.1 compiled
  have listed : Compile.Listed d.head d.templates x :=
    Compile.addSections_keep (fun _ _ _ _ => Compile.listed_addSection) sections
      (Compile.listed_compileHead head)
  refine ⟨d, read, ?_, ?_, fun q member => listed.direction member⟩
  · rw [Document.listing, ← listed.parameters, Compile.Progress.link, List.map_map]
    refine List.map_congr_left fun q _ => ?_
    dsimp only [Function.comp]
    split
    · rfl
    · rfl
  · rw [Compile.link_name]
    exact listed.established.coherent.parameters

/-- One input, one result on the way and one at the end. -/
theorem compile_parameters_chain :
    let source := "# T\n- INPUT PARAMETER {a} First\n## P\n```\n{a}\n```\n-> {b}\n"
      ++ "## Q\n```\n{b}\n```\n-> {c}\n"
    let p : Pipeline :=
      { title := "T"
        parameters :=
          [⟨"a", some "First", true, false⟩, ⟨"b", none, false, false⟩, ⟨"c", none, false, true⟩]
        templates :=
          [{ Template.new "P" "{a}" "b" with dependents := .ofList ["a"] },
            { Template.new "Q" "{b}" "c" with dependents := .ofList ["b"] }] }
    (compile {} source).value = .ok p
      ∧ ∃ d, Document.ofSource source = .ok d
        ∧ [("a", some "First"), ("b", none), ("c", none)]
          = d.listing.map (fun q => (q.name, q.description))
        ∧ d.Declares "INPUT_PARAMETER" "a" ∧ ¬d.Declares "OUTPUT_PARAMETER" "b"
        ∧ (d.Declares "OUTPUT_PARAMETER" "c" ∨ ∀ keyword, ¬d.Declares keyword "c") := by
  intro source p
  have compiled : (compile {} source).value = .ok p := by decide +kernel
  obtain ⟨d, read, listing, -, directions⟩ := compile_parameters compiled
  have input := (directions ⟨"a", some "First", true, false⟩ (by decide)).1
  have between := (directions ⟨"b", none, false, false⟩ (by decide)).2
  have output := (directions ⟨"c", none, false, true⟩ (by decide)).2
  have noOutput : ¬d.Declares "OUTPUT_PARAMETER" "b" :=
    fun declares => absurd (between.2 (.inl declares)) (by decide)
  exact ⟨compiled, d, read, listing, input.1 rfl, noOutput, (output.1 rfl).imp_right And.left⟩

end PromptPipeline
