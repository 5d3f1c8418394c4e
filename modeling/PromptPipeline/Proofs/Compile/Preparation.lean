/-
# Proofs.Compile.Preparation -- what preparing adds is taken away again

Preparing gives personas and sources what the execution needs, and templates bodies of their
own with the dependents that these bring (`Preparation.Prepares`).  Taking it away leaves what
was there before, as long as the dependents of a template are what its content refers to and
its jokers (`stripTemplate_filled`); so they are in a compiled pipeline.
-/
import PromptPipeline.Proofs.Compile.References
import PromptPipeline.Proofs.Name.Set
import Mathlib.Data.List.Forall2

namespace PromptPipeline

set_option autoImplicit false

namespace Preparation

/-! ## Preparing -/

/-- What preparing may do to a template: nothing, or give it a body, and dependents that this
body refers to and the content does not. -/
inductive PreparesTemplate : Template → Template → Prop
  | untouched (t : Template) : PreparesTemplate t t
  | filled (t : Template) (body : String) (dependents : NameSet)
      (kept : ∀ name ∈ t.dependents, name ∈ dependents)
      (brought : ∀ name ∈ dependents, name ∈ t.dependents
        ∨ name ∈ referenced body ∧ name ∉ referenced t.content) :
      PreparesTemplate t { t with prepared := some body, dependents := dependents }

/-- What preparing may make of a pipeline. -/
structure Prepares (p q : Pipeline) : Prop where
  personas : List.Forall₂
    (fun a b : Persona => ∃ requirements ids,
      b = { a with requirements := requirements, preparationIds := ids })
    p.personas q.personas
  knowledge : List.Forall₂
    (fun a b : KnowledgeSource => ∃ ids, b = { a with preparationIds := ids })
    p.knowledge q.knowledge
  templates : List.Forall₂ PreparesTemplate p.templates q.templates
  rest : q = { p with personas := q.personas, knowledge := q.knowledge, templates := q.templates }

/-! ## Taking it away -/

theorem mem_referenced {body name : String} :
    name ∈ referenced body ↔ ∃ w ∈ Name.references body, Name.camelCase w = name :=
  List.mem_map

/-- A template that depends on what its content refers to and on its jokers, and has no body
of a preparation. -/
structure Plain (t : Template) : Prop where
  unprepared : t.prepared = none
  accounted : ∀ name ∈ t.dependents, name ∈ referenced t.content ∨ name ∈ t.jokers
  jokers : ∀ name ∈ t.jokers, name ∈ t.dependents

/-- **A plain template is left when what it was filled with is taken away.**  A name that only
the body brings is no joker, for these were dependents before. -/
theorem stripTemplate_filled {t : Template} {body : String} {dependents : NameSet}
    (plain : Plain t) (kept : ∀ name ∈ t.dependents, name ∈ dependents)
    (brought : ∀ name ∈ dependents, name ∈ t.dependents
      ∨ name ∈ referenced body ∧ name ∉ referenced t.content) :
    stripTemplate { t with prepared := some body, dependents := dependents } = t := by
  have names : (dependents.filter fun name =>
      !((referenced body).contains name && !(referenced t.content).contains name)
        || t.jokers.contains name) = t.dependents := by
    refine NameSet.ext fun name => ?_
    rw [NameSet.mem_filter]
    simp only [Bool.or_eq_true, Bool.not_eq_true', Bool.and_eq_false_iff, List.contains_eq_mem,
      decide_eq_false_iff_not, Bool.not_eq_false', decide_eq_true_eq]
    constructor
    · rintro ⟨member, stays⟩
      rcases brought name member with before | ⟨inBody, notInContent⟩
      · exact before
      · rcases stays with (notInBody | inContent) | joker
        · exact absurd inBody notInBody
        · exact absurd inContent notInContent
        · exact plain.jokers name joker
    · intro before
      exact ⟨kept name before, (plain.accounted name before).imp_left .inr⟩
  unfold stripTemplate
  dsimp only
  rw [names, ← plain.unprepared]

theorem stripTemplate_plain {t : Template} (plain : Plain t) : stripTemplate t = t := by
  unfold stripTemplate
  rw [plain.unprepared]

theorem PreparesTemplate.strip {t t' : Template} (prepares : PreparesTemplate t t')
    (plain : Plain t) : stripTemplate t' = stripTemplate t := by
  rw [stripTemplate_plain plain]
  cases prepares with
  | untouched => exact stripTemplate_plain plain
  | filled body dependents kept brought => exact stripTemplate_filled plain kept brought

/-- What is the same of related elements is the same of related lists. -/
theorem map_eq_of_forall₂ {α β : Type} {R : α → α → Prop} {f : α → β} {l l' : List α}
    (related : List.Forall₂ R l l') (same : ∀ a ∈ l, ∀ b, R a b → f b = f a) :
    l'.map f = l.map f := by
  induction related with
  | nil => rfl
  | cons first _ ih =>
      obtain ⟨atFirst, atRest⟩ := List.forall_mem_cons.1 same
      rw [List.map_cons, List.map_cons, atFirst _ first, ih atRest]

/-- **Preparing changes nothing that is not taken away again.** -/
theorem Prepares.strip {p q : Pipeline} (prepares : Prepares p q)
    (plain : ∀ t ∈ p.templates, Plain t) : strip q = strip p := by
  have personas := map_eq_of_forall₂
    (f := fun a : Persona => { a with requirements := none, preparationIds := none })
    prepares.personas (by
      rintro a - _ ⟨requirements, ids, rfl⟩
      rfl)
  have knowledge := map_eq_of_forall₂
    (f := fun a : KnowledgeSource => { a with preparationIds := none })
    prepares.knowledge (by
      rintro a - _ ⟨ids, rfl⟩
      rfl)
  have templates := map_eq_of_forall₂ (f := stripTemplate) prepares.templates
    fun t member _ here => here.strip (plain t member)
  unfold Preparation.strip
  rw [personas, knowledge, templates, prepares.rest]

end Preparation

/-! ## Compiled pipelines -/

/-- The templates of a compiled pipeline are plain. -/
theorem plain_compile {options : CompileOptions} {source : String} {p : Pipeline}
    (compiled : (compile options source).value = .ok p) :
    ∀ t ∈ p.templates, Preparation.Plain t := by
  intro t member
  have complete := (established_compile compiled).templates t member
  refine ⟨complete.coherent.unprepared, fun name depends => ?_, complete.jokers⟩
  rw [(directed_compile compiled).2 t member] at depends
  exact (Compile.mem_dependents_iff.1 depends).1.imp_left Preparation.mem_referenced.2

/-- **A compiled pipeline is left when what preparing it added is taken away.** -/
theorem strip_prepared {options : CompileOptions} {source : String} {p q : Pipeline}
    (compiled : (compile options source).value = .ok p) (prepares : Preparation.Prepares p q) :
    Preparation.strip q = p :=
  (prepares.strip (plain_compile compiled)).trans (established_compile compiled).strip

/-- A prepared body that brings a reserved name and refers to a dependent in another spelling. -/
theorem strip_prepared_knowledge :
    let source := "# T\n- INPUT PARAMETER {myName}\n- PERSONA Jane\n"
      ++ "## P\n```\n{my_name}\n```\n-> {r}\n"
    let t : Template :=
      { Template.new "P" "{my_name}" "r" with dependents := .ofList ["myName"] }
    let t' : Template :=
      { t with
        prepared := some "{knowledge} {MyName}"
        dependents := .ofList ["myName", "knowledge"] }
    let p : Pipeline :=
      { title := "T"
        parameters := [⟨"myName", none, true, false⟩, ⟨"r", none, false, true⟩]
        personas := [{ name := "Jane" }]
        templates := [t] }
    let jane : Persona := { name := "Jane", requirements := some {}, preparationIds := some [1] }
    let q : Pipeline := { p with personas := [jane], templates := [t'] }
    (compile {} source).value = .ok p ∧ Preparation.Prepares p q ∧ Preparation.strip q = p := by
  intro source t t' p jane q
  have compiled : (compile {} source).value = .ok p := by decide +kernel
  have brought : "knowledge" ∈ Preparation.referenced "{knowledge} {MyName}"
      ∧ "knowledge" ∉ Preparation.referenced t.content := by decide +kernel
  have filled : Preparation.PreparesTemplate t t' := by
    refine .filled t _ _ (fun name member => ?_) (fun name member => ?_)
    · rw [NameSet.mem_ofList] at member ⊢
      exact List.mem_cons.2 (.inl (List.mem_singleton.1 member))
    · rw [NameSet.mem_ofList, List.mem_cons, List.mem_singleton] at member
      rcases member with rfl | rfl
      · exact .inl (NameSet.mem_ofList.2 List.mem_cons_self)
      · exact .inr brought
  have prepares : Preparation.Prepares p q := {
    personas := .cons ⟨some {}, some [1], rfl⟩ .nil
    knowledge := .nil
    templates := .cons filled .nil
    rest := rfl }
  exact ⟨compiled, prepares, strip_prepared compiled prepares⟩

end PromptPipeline
