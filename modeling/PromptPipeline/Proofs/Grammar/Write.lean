/-
# Proofs.Grammar.Write -- the lines of commands

A command can be written unless it is a parameter that is both input and output, a
requirement of a variant that there is none, or a repetition (`write_ok_iff`), and its line
starts with a letter (`letter_of_write`).
-/
import PromptPipeline.Proofs.Grammar.Standard

namespace PromptPipeline

set_option autoImplicit false

/-- A command that has a line. -/
def Command.Writable : Command → Prop
  | .parameter _ _ isInput isOutput => (isInput && isOutput) = false
  | .model .variant value => ∃ variant, ModelVariant.ofKeyword? value = some variant
  | .iterate .. => False
  | _ => True

namespace Grammar

theorem write_of_directiveOf {g : Grammar} {c : Command} {d : Directive}
    (found : g.directiveOf c = .ok d) : g.write c = d.write c := by
  unfold write
  rw [found]
  rfl

theorem write_standard (c : Command) : standard.write c = (owner c.kind).write c :=
  write_of_directiveOf (directiveOf_standard c)

/-- **A command that has a line is written.** -/
theorem write_ok {c : Command} (writable : c.Writable) :
    ∃ line, standard.write c = .ok line := by
  rw [write_standard]
  cases c with
  | url | version | execute | knowledge | expectAmount | expectFormat | postprocess | joker =>
      exact ⟨_, rfl⟩
  | persona name description =>
      cases description with
      | none => exact ⟨_, rfl⟩
      | some description => exact ⟨_, rfl⟩
  | parameter name description isInput isOutput =>
      have notBoth : ¬(isInput && isOutput) = true := Bool.eq_false_iff.1 writable
      show ∃ line,
        Directive.Parameter.write (.parameter name description isInput isOutput) = .ok line
      rw [Directive.Parameter.write, if_neg notBoth]
      exact ⟨_, rfl⟩
  | model key value =>
      cases key with
      | name => exact ⟨_, rfl⟩
      | variant =>
          obtain ⟨variant, known⟩ := writable
          show ∃ line, Directive.Model.write (.model .variant value) = .ok line
          rw [Directive.Model.write, known]
          exact ⟨_, rfl⟩
  | iterate => exact writable.elim

/-- **The commands that are written are those that have a line.** -/
theorem write_ok_iff {c : Command} : (∃ line, standard.write c = .ok line) ↔ c.Writable := by
  refine ⟨?_, write_ok⟩
  rintro ⟨line, written⟩
  rw [write_standard] at written
  cases c with
  | url | version | execute | knowledge | expectAmount | expectFormat | postprocess | joker
  | persona => trivial
  | parameter name description isInput isOutput =>
      dsimp only [owner, Command.kind, Directive.parameter, Directive.Parameter.write] at written
      split at written
      · cases written
      · rename_i notBoth
        exact Bool.eq_false_iff.2 notBoth
  | model key value =>
      cases key with
      | name => trivial
      | variant =>
          dsimp only [owner, Command.kind, Directive.model, Directive.Model.write] at written
          split at written
          · rename_i variant known
            exact ⟨variant, known⟩
          · cases written
  | iterate => cases written

/-! ## First letters -/

/-- A text that starts with a letter. -/
def StartsWithLetter (s : String) : Prop :=
  ∃ letter rest, s.toList = letter :: rest ∧ letter.isAlpha = true

theorem startsWithLetter_append {s : String} (starts : StartsWithLetter s) (t : String) :
    StartsWithLetter (s ++ t) := by
  obtain ⟨letter, rest, is, alpha⟩ := starts
  exact ⟨letter, rest ++ t.toList, by rw [String.toList_append, is, List.cons_append], alpha⟩

/-- **The line of a command starts with a letter.** -/
theorem letter_of_write {c : Command} {line : String} (written : standard.write c = .ok line) :
    StartsWithLetter line := by
  rw [write_standard] at written
  cases c with
  | url url =>
      cases written
      exact startsWithLetter_append ⟨'P', _, rfl, by decide⟩ _
  | version version =>
      cases written
      exact startsWithLetter_append ⟨'P', _, rfl, by decide⟩ _
  | parameter name description isInput isOutput =>
      dsimp only [owner, Command.kind, Directive.parameter, Directive.Parameter.write] at written
      split at written
      · cases written
      · cases written
        refine startsWithLetter_append (startsWithLetter_append (startsWithLetter_append ?_ _) _) _
        split
        · exact ⟨'I', _, rfl, by decide⟩
        · split
          · exact ⟨'O', _, rfl, by decide⟩
          · exact ⟨'P', _, rfl, by decide⟩
  | execute execution =>
      cases written
      exact startsWithLetter_append ⟨'E', _, rfl, by decide⟩ _
  | model key value =>
      cases key with
      | name =>
          cases written
          exact startsWithLetter_append (startsWithLetter_append ⟨'M', _, rfl, by decide⟩ _) _
      | variant =>
          dsimp only [owner, Command.kind, Directive.model, Directive.Model.write] at written
          split at written
          · cases written
            exact startsWithLetter_append ⟨'M', _, rfl, by decide⟩ _
          · cases written
  | persona name description =>
      cases description with
      | none =>
          cases written
          exact startsWithLetter_append ⟨'P', _, rfl, by decide⟩ _
      | some description =>
          cases written
          refine startsWithLetter_append (startsWithLetter_append
            (startsWithLetter_append ?_ _) _) _
          exact ⟨'P', _, rfl, by decide⟩
  | knowledge source =>
      cases written
      exact startsWithLetter_append ⟨'K', _, rfl, by decide⟩ _
  | expectAmount sign unit amount =>
      cases written
      refine startsWithLetter_append (startsWithLetter_append (startsWithLetter_append
        (startsWithLetter_append (startsWithLetter_append ?_ _) _) _) _) _
      exact ⟨'E', _, rfl, by decide⟩
  | expectFormat format =>
      cases written
      exact startsWithLetter_append ⟨'E', _, rfl, by decide⟩ _
  | postprocess function =>
      cases written
      exact startsWithLetter_append (startsWithLetter_append ⟨'P', _, rfl, by decide⟩ _) _
  | joker name =>
      cases written
      exact startsWithLetter_append ⟨'J', _, rfl, by decide⟩ _
  | iterate format part name => cases written

end Grammar

end PromptPipeline
