/-
# Proofs.Edit.Applicable -- what is read from a line can be applied

A directive may stand where it has an edit, and nowhere else (`isUsedIn_head`,
`isUsedIn_template`), and what it reads requires no variant that there is none.  So of the
ways in which a command is refused, only contradictions of what came before are left for
what is read from a line, and for an iteration, which no template knows
(`applies_of_parse`).
-/
import PromptPipeline.Proofs.Edit.Refusal
import PromptPipeline.Proofs.Grammar.Words

namespace PromptPipeline

set_option autoImplicit false

open Directive

/-! ## Edits where a command may stand -/

/-- A directive may stand in heads if it edits them. -/
theorem Grammar.isUsedIn_head (kind : Command.Kind) :
    (owner kind).isUsedIn .head = (owner kind).onHead.isSome := by
  cases kind <;> rfl

/-- A directive may stand in templates if it edits them. -/
theorem Grammar.isUsedIn_template (kind : Command.Kind) :
    (owner kind).isUsedIn .template = (owner kind).onTemplate.isSome := by
  cases kind <;> rfl

/-! ## Outcomes -/

variable {line : String} {c : Command}

/-- What a head can have against a command that is read from a line. -/
theorem HeadRefusal.conflict_of_parse (parsed : Grammar.standard.parse line .head = .ok c)
    {p : Pipeline} {r : Refused Pipeline} (refusal : HeadRefusal c p r) :
    (c.kind = .parameter ∨ c.kind = .knowledge) ∧ ∃ clash, r = ⟨.conflict clash, p⟩ := by
  obtain ⟨-, used, -⟩ := Grammar.exists_arguments parsed
  have lacks := lacksVariant_of_parse parsed
  cases refusal with
  | parameter => exact ⟨.inl rfl, _, rfl⟩
  | variant _ unknown => simp [Command.lacksVariant, unknown] at lacks
  | knowledge => exact ⟨.inr rfl, _, rfl⟩
  | misplaced _ noEdit =>
      rw [Grammar.isUsedIn_head, noEdit] at used
      cases used

/-- What a template can have against a command that is read from a line. -/
theorem TemplateRefusal.conflict_of_parse (parsed : Grammar.standard.parse line .template = .ok c)
    {d : Draft} {r : Refused Draft} (refusal : TemplateRefusal c d r) (plain : c.kind ≠ .iterate) :
    ∃ clash, r = ⟨.conflict clash, d⟩ := by
  obtain ⟨-, used, -⟩ := Grammar.exists_arguments parsed
  have lacks := lacksVariant_of_parse parsed
  cases refusal with
  | variant _ unknown => simp [Command.lacksVariant, unknown] at lacks
  | iterate => exact absurd rfl plain
  | misplaced _ noEdit =>
      rw [Grammar.isUsedIn_template, noEdit] at used
      cases used
  | _ => exact ⟨_, rfl⟩

/-- No template iterates. -/
theorem applyToTemplate_iterate (iterates : c.kind = .iterate) (d : Draft) :
    (Grammar.standard.applyToTemplate c d).value
      = .error ⟨.notImplemented Iterate.name "apply to template", d⟩ := by
  cases c with
  | iterate =>
      rw [Grammar.applyToTemplate_standard rfl]
      rfl
  | _ => cases iterates

/-- **What is read from a line can be applied where it stands**, unless it contradicts what
came before: in a head, only a second declaration of a parameter and a second source of a name
do.  A template iterates in no case, and a head is never asked to. -/
theorem applies_of_parse (line : String) (c : Command) :
    (Grammar.standard.parse line .head = .ok c →
      c.kind ≠ .iterate
        ∧ ∀ p, (∃ p', (Grammar.standard.applyToHead c p).value = .ok p')
          ∨ (c.kind = .parameter ∨ c.kind = .knowledge)
            ∧ ∃ clash, (Grammar.standard.applyToHead c p).value = .error ⟨.conflict clash, p⟩)
      ∧ (Grammar.standard.parse line .template = .ok c →
        ∀ d, (c.kind = .iterate → ∃ operation,
            (Grammar.standard.applyToTemplate c d).value
              = .error ⟨.notImplemented Iterate.name operation, d⟩)
          ∧ (c.kind ≠ .iterate →
            (∃ d', (Grammar.standard.applyToTemplate c d).value = .ok d')
              ∨ ∃ clash,
                (Grammar.standard.applyToTemplate c d).value = .error ⟨.conflict clash, d⟩)) := by
  constructor
  · intro parsed
    refine ⟨fun iterates => ?_, fun p => ?_⟩
    · obtain ⟨-, used, -⟩ := Grammar.exists_arguments parsed
      rw [iterates] at used
      cases used
    · cases outcome : (Grammar.standard.applyToHead c p).value with
      | ok p' => exact .inl ⟨p', rfl⟩
      | error r =>
          obtain ⟨declares, clash, rfl⟩ := (headRefusal_of_error outcome).conflict_of_parse parsed
          exact .inr ⟨declares, clash, rfl⟩
  · intro parsed d
    refine ⟨fun iterates => ⟨_, applyToTemplate_iterate iterates d⟩, fun plain => ?_⟩
    cases outcome : (Grammar.standard.applyToTemplate c d).value with
    | ok d' => exact .inl ⟨d', rfl⟩
    | error r =>
        obtain ⟨clash, rfl⟩ :=
          (templateRefusal_of_error outcome).conflict_of_parse parsed plain
        exact .inr ⟨clash, rfl⟩

/-- A variant in a head and in a template, and an iteration in a template. -/
theorem applies_of_parse_variant :
    let chat : Command := .model .variant "CHAT"
    let iteration : Command := .iterate .list .line "x"
    let p := Pipeline.new "T"
    let d : Draft := ⟨Template.new "Step" "x" "r", p⟩
    (∀ place, Grammar.standard.parse "MODEL VARIANT Chat" place = .ok chat)
      ∧ Grammar.standard.parse "FOREACH List Line -> {x}" .template = .ok iteration
      ∧ (∃ p', (Grammar.standard.applyToHead chat p).value = .ok p')
      ∧ ((∃ d', (Grammar.standard.applyToTemplate chat d).value = .ok d')
        ∨ ∃ clash, (Grammar.standard.applyToTemplate chat d).value = .error ⟨.conflict clash, d⟩)
      ∧ ∃ operation, (Grammar.standard.applyToTemplate iteration d).value
          = .error ⟨.notImplemented Iterate.name operation, d⟩ := by
  intro chat iteration p d
  have required : ∀ place, Grammar.standard.parse "MODEL VARIANT Chat" place = .ok chat := by
    intro place
    have spelled : "MODEL VARIANT Chat" = "MODEL VARIANT " ++ ModelVariant.chat.title := by decide
    have used : Directive.model.isUsedIn place = true := by cases place <;> rfl
    rw [spelled]
    exact Grammar.parse_variant used
  have iterated : Grammar.standard.parse "FOREACH List Line -> {x}" .template = .ok iteration := by
    decide +kernel
  obtain ⟨ofHead, ofTemplate⟩ := applies_of_parse "MODEL VARIANT Chat" chat
  obtain ⟨-, ofIteration⟩ := applies_of_parse _ iteration
  refine ⟨required, iterated, ?_, ?_, (ofIteration iterated d).1 rfl⟩
  · rcases (ofHead (required .head)).2 p with applied | ⟨declares, -⟩
    · exact applied
    · exact absurd declares (by decide)
  · exact (ofTemplate (required .template) d).2 (by decide)

end PromptPipeline
