/-
# Proofs.Compile.References -- references and declarations of one spelling

A template depends on what its body refers to and on its jokers, without the reserved names
(`mem_dependents_iff`).  The body and a declaration are read by different rules.  They agree
on spellings of ASCII letters, digits and underscores, some letter or digit among them
(`references_agree`); a declaration takes more than these, which a body does not refer to
(`references_disagree`), and a body refers to underscores, which no line declares
(`underscores_disagree`).
-/
import PromptPipeline.Proofs.Compile.Printable
import PromptPipeline.Proofs.Grammar.Arguments
import PromptPipeline.Proofs.Name.References

namespace PromptPipeline

set_option autoImplicit false

open Unicode (isBlank)

/-! ## Dependents -/

/-- **What a template depends on.** -/
theorem Compile.mem_dependents_iff {t : Template} {name : String} :
    name ∈ dependents t
      ↔ ((∃ w ∈ Name.references t.content, Name.camelCase w = name) ∨ name ∈ t.jokers)
        ∧ Name.isReserved name = false := by
  unfold dependents
  simp only [NameSet.mem_ofList, List.mem_filter, List.mem_append, List.mem_map,
    Bool.not_eq_true']

/-! ## Spellings -/

/-- A text that may stand between braces: it has no white space, no backtick and no brace. -/
def Name.IsSpelling (w : String) : Prop :=
  ∀ c ∈ w.toList, isBlank c = false ∧ c ∉ ['`', '\x7b', '\x7d']

instance (w : String) : Decidable (Name.IsSpelling w) :=
  inferInstanceAs (Decidable (∀ c ∈ w.toList, _ ∧ _))

namespace Grammar

/-- A spelling between braces is one word of a line. -/
theorem isWordChar_of_isSpelling {w : String} (spelling : Name.IsSpelling w) :
    ∀ c ∈ (braced w).toList, Token.IsWordChar c := by
  have is : (braced w).toList = '\x7b' :: (w.toList ++ ['\x7d']) := by simp [braced]
  rw [is]
  refine List.forall_mem_cons.2 ⟨by decide, ?_⟩
  refine List.forall_mem_append.2 ⟨fun c inside => ?_, by decide⟩
  obtain ⟨solid, other⟩ := spelling c inside
  exact ⟨fun tick => other (tick ▸ List.mem_cons_self), solid⟩

/-- Which declaration a keyword and a spelling between braces make. -/
theorem parse_spelling_iff {w : String} (spelling : Name.IsSpelling w) {place : Place}
    {c : Command} :
    standard.parse ("PARAMETER " ++ braced w) place = .ok c
      ↔ ∃ name, Name.validate (braced w) = .ok name ∧ c = .parameter name none false false :=
  parse_declaration_iff (isWordChar_of_isSpelling spelling)
    ⟨'\x7b', by simp [braced], by decide⟩

end Grammar

/-! ## Agreement -/

/-- **References and declarations agree on reference characters.**  A declared spelling is
a dependency of every template whose body has it between braces; and a spelling that is the
whole body and gives a dependency declares it, unless it has underscores only.  A body records
the empty name for such a spelling, and no line declares that (`underscores_disagree`). -/
theorem references_agree {options : CompileOptions} {source : String} {p : Pipeline}
    (compiled : (compile options source).value = .ok p) {t : Template} (member : t ∈ p.templates)
    {w : String} (spelling : Name.IsSpelling w) :
    ((∀ c ∈ w.toList, Name.isReferenceChar c = true) →
        ∀ place name description isInput isOutput,
          Grammar.standard.parse ("PARAMETER " ++ braced w) place
            = .ok (.parameter name description isInput isOutput) →
          (braced w).toList <:+: t.content.toList → name ∈ t.dependents)
      ∧ ((∃ c ∈ w.toList, c ≠ '_') → t.content = braced w →
        ∀ name ∈ t.dependents, name ∉ t.jokers →
          ∀ place, Grammar.standard.parse ("PARAMETER " ++ braced w) place
            = .ok (.parameter name none false false)) := by
  have dependents : t.dependents = Compile.dependents t :=
    (directed_compile compiled).2 t member
  rw [dependents]
  constructor
  · intro isRef place name description isInput isOutput parsed inside
    obtain ⟨_, valid, ⟨⟩⟩ := (Grammar.parse_spelling_iff spelling).1 parsed
    obtain ⟨rfl, free, c, letter, -⟩ := (Name.validate_reference_iff isRef).1 valid
    have filled : w ≠ "" := by
      rintro rfl
      cases letter
    exact Compile.mem_dependents_iff.2
      ⟨.inl ⟨w, Name.mem_references_iff.2 ⟨filled, isRef, inside⟩, rfl⟩, free⟩
  · intro letter body name depends noJoker place
    obtain ⟨referred | joker, free⟩ := Compile.mem_dependents_iff.1 depends
    · obtain ⟨w', referred, rfl⟩ := referred
      rw [body] at referred
      have noOpen : '\x7b' ∉ w.toList := fun inside =>
        (spelling _ inside).2 (by simp)
      have noClose : '\x7d' ∉ w.toList := fun inside =>
        (spelling _ inside).2 (by simp)
      obtain rfl := Name.eq_of_mem_references noOpen noClose referred
      obtain ⟨-, isRef, -⟩ := Name.mem_references_iff.1 referred
      exact (Grammar.parse_spelling_iff spelling).2
        ⟨_, (Name.validate_reference_iff isRef).2 ⟨rfl, free, letter⟩, rfl⟩
    · exact absurd joker noJoker

/-- The body `{my_name}` refers to the parameter that `{my_name}` declares. -/
theorem references_agree_underscore :
    let source := "## P\n```\n{my_name}\n```\n-> {r}\n"
    let t : Template :=
      { Template.new "P" "{my_name}" "r" with dependents := .ofList ["myName"] }
    let p : Pipeline :=
      { title := "", parameters := [{ name := "r", isOutput := true }], templates := [t] }
    (compile { validate := false } source).value = .ok p ∧ t ∈ p.templates
      ∧ "myName" ∈ t.dependents
      ∧ Grammar.standard.parse ("PARAMETER " ++ braced "my_name") .head
        = .ok (.parameter "myName" none false false) := by
  intro source t p
  have compiled : (compile { validate := false } source).value = .ok p := by decide +kernel
  have member : t ∈ p.templates := List.mem_singleton_self t
  obtain ⟨declared, referred⟩ :=
    references_agree compiled member (w := "my_name") (by decide)
  have parsed := referred (by decide) (by decide +kernel) "myName" (by decide) (by decide) .head
  exact ⟨compiled, member, declared (by decide) _ _ _ _ _ parsed (by decide +kernel), parsed⟩

/-- Of other spellings they do not: `PARAMETER {my-name}` declares `myName`, and the body
`{my-name}` refers to nothing. -/
theorem references_disagree : ¬∀ (source : String) (p : Pipeline) (t : Template) (w name : String),
    (compile { validate := false } source).value = .ok p → t ∈ p.templates → Name.IsSpelling w →
      Grammar.standard.parse ("PARAMETER " ++ braced w) .head
        = .ok (.parameter name none false false) →
      (braced w).toList <:+: t.content.toList → name ∈ t.dependents := by
  intro law
  have compiled : (compile { validate := false }
      "## P\n- PARAMETER {my-name}\n```\n{my-name}\n```\n-> {r}\n").value
        = .ok {
          title := ""
          parameters := [{ name := "myName" }, { name := "r", isOutput := true }]
          templates := [Template.new "P" "{my-name}" "r"] } := by
    decide +kernel
  have parsed : Grammar.standard.parse ("PARAMETER " ++ braced "my-name") .head
      = .ok (.parameter "myName" none false false) :=
    (Grammar.parse_spelling_iff (by decide)).2 ⟨"myName", by decide +kernel, rfl⟩
  have depends := law _ _ _ "my-name" "myName" compiled (List.mem_singleton_self _) (by decide)
    parsed (by decide)
  exact absurd depends (by decide)

/-- Of underscores only they do not either: the body `{_}` refers to the empty name, and
`PARAMETER {_}` is refused in every place. -/
theorem underscores_disagree :
    let t : Template := { Template.new "P" (braced "_") "r" with dependents := .ofList [""] }
    let p : Pipeline :=
      { title := "", parameters := [{ name := "r", isOutput := true }], templates := [t] }
    (compile { validate := false } "## P\n```\n{_}\n```\n-> {r}\n").value = .ok p
      ∧ t ∈ p.templates ∧ Name.IsSpelling "_" ∧ "" ∈ t.dependents ∧ "" ∉ t.jokers
      ∧ ∀ place c, Grammar.standard.parse ("PARAMETER " ++ braced "_") place ≠ .ok c := by
  intro t p
  have spelling : Name.IsSpelling "_" := by decide
  refine ⟨by decide +kernel, List.mem_singleton_self t, spelling, by decide, by decide, ?_⟩
  intro place c parsed
  obtain ⟨name, valid, -⟩ := (Grammar.parse_spelling_iff spelling).1 parsed
  obtain ⟨-, -, d, inside, letter⟩ := (Name.validate_reference_iff (by decide)).1 valid
  exact letter (List.mem_singleton.1 inside)

end PromptPipeline
