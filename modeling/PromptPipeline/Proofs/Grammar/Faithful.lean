/-
# Proofs.Grammar.Faithful -- which commands are read back from their lines

A command that was read from a line has a line of its own, which need not be the same.
This line is read as the same command exactly if the command is `Faithful`
(`parse_write_iff`).  What is lost is what a line without quotes cannot say:

* the blanks of a URL,
* a name that camel case makes another one of,
* the backticks around the name of a persona, and the blanks around a source,
* separators at the start of an argument, which belong to the keyword before it.
-/
import PromptPipeline.Proofs.Grammar.Rest
import PromptPipeline.Proofs.Grammar.Words
import PromptPipeline.Proofs.Grammar.Write

namespace PromptPipeline

set_option autoImplicit false

open Markdown (IsLine)
open Unicode (isBlank)

/-! ## Faithful commands -/

/-- A command that its line is read as. -/
def Command.Faithful : Command → Prop
  | .url address => ∀ c ∈ address.toList, isBlank c = false
  | .parameter name _ _ _ => Name.camelCase name = name
  | .persona name description =>
      Directive.Persona.bareName name.toList = name.toList
        ∧ Grammar.Kept (Grammar.personaSource name description)
  | .knowledge source => Text.trim source = source ∧ Grammar.Kept source
  | .postprocess function => ∃ c ∈ function.toList, c ≠ '_'
  | .joker name => Name.camelCase name = name
  | _ => True

instance : DecidablePred Command.Faithful
  | .url _ => inferInstanceAs (Decidable (∀ c ∈ _, _ = _))
  | .parameter .. => inferInstanceAs (Decidable (_ = _))
  | .persona .. => inferInstanceAs (Decidable (_ ∧ _))
  | .knowledge _ => inferInstanceAs (Decidable (_ ∧ _))
  | .postprocess _ => inferInstanceAs (Decidable (∃ c ∈ _, c ≠ '_'))
  | .joker _ => inferInstanceAs (Decidable (_ = _))
  | .version _ | .execute _ | .model .. | .expectAmount .. | .expectFormat _ | .iterate .. =>
      inferInstanceAs (Decidable True)

namespace Grammar

variable {place : Place}

/-! ## Every command -/

/-- The description of a parameter that was read is a source. -/
theorem described_of_heard {keyword line : String} {skipped : Nat} (isLine : IsLine line.toList)
    {description : Option String}
    (is : description
      = Directive.described ((argumentsOf keyword (Text.trim line) skipped).sourceFrom 1)) :
    ∀ d ∈ description, Token.IsSource d.toList ∧ IsLine d.toList := by
  rintro d rfl
  unfold Directive.described at is
  split at is
  · cases is
  · rename_i filled
    cases is
    obtain ⟨oneLine, isSource⟩ := heard_rest keyword skipped isLine 1
    exact ⟨isSource fun empty => filled (empty ▸ rfl), oneLine⟩

/-- A source of knowledge that was read was heard as one. -/
theorem isKnowledge_of_heard {keyword line source : String} {skipped : Nat}
    (isLine : IsLine line.toList)
    (said : Says (argumentsOf keyword (Text.trim line) skipped) source) :
    IsKnowledge source ∧ IsLine source.toList := by
  rcases said with said | ⟨⟨first, second, rest, said⟩, whole⟩
  · obtain ⟨filled, noTick, oneLine⟩ := heard_word isLine (said ▸ List.mem_singleton_self source)
    exact ⟨.inl ⟨filled, noTick⟩, oneLine⟩
  · obtain ⟨oneLine, isSource, texts⟩ := heard_source isLine 0 (by rw [said]; rfl)
    rw [whole] at oneLine isSource texts
    exact ⟨.inr ⟨isSource, first, second, rest, texts.trans said⟩, oneLine⟩

/-- **The line of a command that was read is read as this command exactly if the command is
faithful.**  A repetition has no line. -/
theorem parse_write_iff {line : String} {c : Command} (parsed : standard.parse line place = .ok c)
    (once : c.kind ≠ .iterate) :
    ∃ written, standard.write c = .ok written
      ∧ (standard.parse written place = .ok c ↔ c.Faithful) := by
  obtain ⟨isLine, used, keyword, skipped, -, read⟩ := exists_arguments parsed
  rw [write_standard]
  cases c with
  | url address =>
      dsimp only [owner, Command.kind, Directive.url, Directive.urlWith] at read used ⊢
      obtain ⟨_, said, checked, ⟨⟩⟩ := Directive.Url.parse_ok_iff.1 read
      obtain ⟨filled, noTick, oneLine⟩ := heard_word isLine (said ▸ List.mem_singleton_self address)
      exact ⟨_, rfl, parse_url_iff used checked filled noTick oneLine⟩
  | version version =>
      dsimp only [owner, Command.kind, Directive.version] at read used ⊢
      obtain ⟨_, said, valid, ⟨⟩⟩ := Directive.Version.parse_ok_iff.1 read
      obtain ⟨filled, -⟩ := heard_word isLine (said ▸ List.mem_singleton_self version)
      exact ⟨_, rfl, iff_of_true (parse_version used valid filled) trivial⟩
  | parameter name description isInput isOutput =>
      dsimp only [owner, Command.kind, Directive.parameter] at read used ⊢
      obtain ⟨raw, others, _, said, valid, same⟩ := Directive.Parameter.parse_ok_iff.1 read
      obtain ⟨rfl, source, rfl, rfl⟩ := Command.parameter.inj same
      have described := described_of_heard isLine source
      have notBoth := Directive.Parameter.not_both
        (argumentsOf keyword (Text.trim line) skipped).keyword
      obtain ⟨written, wrote⟩ := write_ok (c := .parameter name description _ _) notBoth
      rw [write_standard] at wrote
      exact ⟨written, wrote, parse_parameter_iff used valid described wrote⟩
  | execute execution =>
      exact ⟨_, rfl, iff_of_true (parse_execute used) trivial⟩
  | model key value =>
      dsimp only [owner, Command.kind, Directive.model] at read used ⊢
      rcases Directive.Model.parse_ok_iff.1 read with
        ⟨_, values, variant, -, -, -, ⟨⟩⟩ | ⟨word, name, said, -, ⟨⟩⟩
      · have known : ModelVariant.ofKeyword? variant.word = some variant := by
          cases variant <;> decide +kernel
        refine ⟨"MODEL VARIANT " ++ variant.title, ?_, iff_of_true (parse_variant used) trivial⟩
        rw [Directive.Model.write, known]
      · have member : value ∈ (argumentsOf keyword (Text.trim line) skipped).words := by simp [said]
        obtain ⟨filled, noTick, oneLine⟩ := heard_word isLine member
        exact ⟨_, rfl, iff_of_true (parse_modelName used filled noTick oneLine) trivial⟩
  | persona name description =>
      dsimp only [owner, Command.kind, Directive.persona] at read used ⊢
      obtain ⟨name', description', spoken, filled, ⟨⟩⟩ := Directive.Persona.parse_ok_iff.1 read
      have isPersona := isPersona_of_spoken (heard_rest _ _ isLine 0).1 spoken filled
      obtain ⟨written, wrote⟩ := write_ok
        (c := .persona (String.ofList name')
          (Directive.described (String.ofList description'))) trivial
      rw [write_standard] at wrote
      exact ⟨written, wrote, parse_persona_iff used isPersona wrote⟩
  | knowledge source =>
      dsimp only [owner, Command.kind, Directive.knowledge, Directive.knowledgeWith] at read used ⊢
      obtain ⟨_, said, acceptable, ⟨⟩⟩ := Directive.Knowledge.parse_ok_iff.1 read
      obtain ⟨heard, oneLine⟩ := isKnowledge_of_heard isLine said
      exact ⟨_, rfl, parse_knowledge_iff used acceptable heard oneLine⟩
  | expectAmount sign unit amount =>
      exact ⟨_, rfl, iff_of_true (parse_expectAmount used) trivial⟩
  | expectFormat format =>
      exact ⟨_, rfl, iff_of_true (parse_expectFormat used) trivial⟩
  | postprocess function =>
      dsimp only [owner, Command.kind, Directive.postprocess] at read used ⊢
      obtain ⟨_, said, valid, ⟨⟩⟩ := Directive.Postprocess.parse_ok_iff.1 read
      exact ⟨_, rfl, parse_postprocess_iff used valid⟩
  | joker name =>
      dsimp only [owner, Command.kind, Directive.joker] at read used ⊢
      obtain ⟨raw, _, said, valid, ⟨⟩⟩ := Directive.Joker.parse_ok_iff.1 read
      exact ⟨_, rfl, parse_joker_iff used valid⟩
  | iterate => exact absurd rfl once

/-- A declaration whose name is in camel case is read back. -/
theorem parse_write_thing : ∃ written,
    standard.write (.parameter "thing" none false false) = .ok written
      ∧ standard.parse written .head = .ok (.parameter "thing" none false false) := by
  have parsed : standard.parse ("PARAMETER " ++ "<thing>") .head
      = .ok (.parameter "thing" none false false) :=
    (parse_declaration_iff (by decide) (by decide)).2 ⟨"thing", by decide +kernel, rfl⟩
  obtain ⟨written, wrote, again⟩ := parse_write_iff parsed (by decide)
  exact ⟨written, wrote, again.2 (by decide +kernel)⟩

/-- Not every command is read back: camel case makes another name of `aBC`, which stands for
`a-b-c`. -/
theorem parse_write_unstable : ¬∀ (line : String) (place : Place) (c : Command),
    standard.parse line place = .ok c → c.kind ≠ .iterate →
      ∃ written, standard.write c = .ok written ∧ standard.parse written place = .ok c := by
  intro law
  have valid : Name.validate "{a-b-c}" = .ok "aBC" := by decide +kernel
  have parsed : standard.parse ("PARAMETER " ++ "{a-b-c}") .head
      = .ok (.parameter "aBC" none false false) :=
    (parse_declaration_iff (by decide) (by decide)).2 ⟨"aBC", valid, rfl⟩
  obtain ⟨written, wrote, again⟩ := law _ _ _ parsed (by decide)
  rw [write_standard] at wrote
  dsimp only [owner, Command.kind, Directive.parameter] at wrote
  have noDescription : ∀ d ∈ (none : Option String), Token.IsSource d.toList ∧ IsLine d.toList :=
    fun _ h => nomatch h
  have stable := (parse_parameter_iff (by decide) valid noDescription wrote).1 again
  exact absurd stable (by decide +kernel)

end Grammar

end PromptPipeline
