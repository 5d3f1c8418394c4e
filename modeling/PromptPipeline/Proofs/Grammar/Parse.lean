/-
# Proofs.Grammar.Parse -- what can be read from a line

A line is read if a keyword is found and its directive reads what is behind it
(`Grammar.parse_ok_iff`).  The owners of the keywords of a grammar are its directives, so one
of them has read the line (`Grammar.parse_ok`).  A command that was read is
`Command.Admissible`: directives refuse what no command may say, whatever the line.
-/
import PromptPipeline.Proofs.Grammar.Build
import PromptPipeline.Proofs.Grammar.Reading
import PromptPipeline.Proofs.Markdown.Lines
import PromptPipeline.Proofs.Name.Validate
import Mathlib.Tactic.Cases

namespace PromptPipeline

set_option autoImplicit false

/-! ## Owners of keywords -/

namespace Grammar

variable {directives : List Directive} {g : Grammar} {d : Directive}

open Markdown (IsLine)

/-- The owners of the keywords of a built grammar are its directives. -/
theorem owned_of_build (built : build directives = .ok g) : ∀ x ∈ g.keywords, x.2 ∈ directives := by
  obtain ⟨-, rfl⟩ := build_ok_iff.1 built
  intro x member
  obtain ⟨d, isDirective, spelled⟩ := List.mem_flatMap.1 member
  obtain ⟨spelling, -, rfl⟩ := List.mem_map.1 spelled
  exact isDirective

/-- The owner of a keyword of a built grammar is one of its directives. -/
theorem mem_of_lookup (built : build directives = .ok g) {keyword : String}
    (found : g.keywords.lookup keyword = some d) : d ∈ directives := by
  obtain ⟨before, after, split, -⟩ := List.lookup_eq_some_iff.1 found
  refine owned_of_build built (keyword, d) ?_
  rw [split]
  exact List.mem_append_right _ List.mem_cons_self

/-! ## Lines -/

theorem matchUpTo_directive {tokens : List String} {found : Match} :
    ∀ {count : Nat}, g.matchUpTo tokens count = some found →
      g.keywords.lookup found.keyword = some found.directive
  | 0, matched => nomatch matched
  | count + 1, matched => by
      unfold matchUpTo at matched
      rcases Option.or_eq_some_iff.1 matched with exactly | ⟨-, fewer⟩
      · unfold matchExactly at exactly
        obtain ⟨d, owned, rfl⟩ := Option.map_eq_some_iff.1 exactly
        exact owned
      · exact matchUpTo_directive fewer

/-- The arguments that the tokens of a line make from one on. -/
def argumentsOf (keyword line : String) (skipped : Nat) : Arguments :=
  ⟨line, keyword, (Token.ofLine line).drop skipped⟩

theorem matchKeyword_nil (g : Grammar) : g.matchKeyword [] = none := by
  rw [matchKeyword, List.length_nil, Nat.zero_min, matchUpTo]

/-- **Which lines are read.** -/
theorem parse_ok_iff {g : Grammar} {line : String} {place : Place} {c : Command} :
    g.parse line place = .ok c
      ↔ IsLine line.toList
        ∧ ∃ found, g.matchKeyword ((Token.ofLine (Text.trim line)).map (·.text)) = some found
          ∧ found.directive.isUsedIn place = true
          ∧ found.directive.parse
              (argumentsOf found.keyword (Text.trim line) found.consumed) = .ok c := by
  unfold parse IsLine argumentsOf
  by_cases ends : line.toList.any (fun c => c == '\n' || c == '\r') = true
  · have notLine : ¬('\n' ∉ line.toList ∧ '\r' ∉ line.toList) := by
      rintro ⟨noFeed, noReturn⟩
      obtain ⟨c, inside, isEnd⟩ := List.any_eq_true.1 ends
      rcases Bool.or_eq_true_iff.1 isEnd with feed | ret
      · exact noFeed (beq_iff_eq.1 feed ▸ inside)
      · exact noReturn (beq_iff_eq.1 ret ▸ inside)
    rw [if_pos ends]
    simp [notLine]
  · have isLine : '\n' ∉ line.toList ∧ '\r' ∉ line.toList := by
      constructor
      · exact fun inside => ends (List.any_eq_true.2 ⟨_, inside, rfl⟩)
      · exact fun inside => ends (List.any_eq_true.2 ⟨_, inside, rfl⟩)
    rw [if_neg ends, and_iff_right isLine]
    dsimp only
    cases tokens : Token.ofLine (Text.trim line) with
    | nil => simp [matchKeyword_nil]
    | cons first rest =>
        dsimp only
        cases matched : g.matchKeyword ((first :: rest).map (·.text)) with
        | none => simp
        | some found =>
            dsimp only
            split
            · rename_i used
              simp [used]
            · rename_i unused
              simp [unused]

/-- A line is read by a directive of the grammar that may stand in the place. -/
theorem parse_ok (built : build directives = .ok g) {line : String} {place : Place} {c : Command}
    (parsed : g.parse line place = .ok c) :
    ∃ d ∈ directives, d.isUsedIn place = true ∧ ∃ a, d.parse a = .ok c := by
  obtain ⟨-, found, matched, used, read⟩ := parse_ok_iff.1 parsed
  exact ⟨found.directive, mem_of_lookup built (matchUpTo_directive matched), used, _, read⟩

end Grammar

/-! ## Commands -/

/-- No keyword starts with both. -/
theorem Directive.Parameter.not_both (keyword : String) :
    (Text.startsWith "INPUT" keyword && Text.startsWith "OUTPUT" keyword) = false := by
  unfold Text.startsWith
  cases keyword.toList with
  | nil => rfl
  | cons c rest =>
      by_cases input : c = 'I'
      · subst input
        simp [List.isPrefixOf]
      · simp [List.isPrefixOf, Ne.symm input]

/-- What every command meets that is read from a line. -/
def Command.Admissible : Command → Prop
  | .version v => SemanticVersion.isValid v = true
  | .parameter name _ isInput isOutput =>
      Name.isReserved name = false ∧ (isInput && isOutput) = false
  | .joker name => Name.isReserved name = false
  | _ => True

theorem Name.isReserved_of_validate {raw name : String} (valid : Name.validate raw = .ok name) :
    Name.isReserved name = false :=
  (Name.validate_ok_iff.1 valid).2.2.2

namespace Grammar

/-- **Only the directive of a command reads it, and the command is admissible.** -/
theorem owned_of_parse {d : Directive} (member : d ∈ catalog) {a : Arguments} {c : Command}
    (parsed : d.parse a = .ok c) : d = owner c.kind ∧ c.Admissible := by
  simp only [catalog_eq, List.mem_cons, List.not_mem_nil, or_false] at member
  rcases member with rfl | rfl | rfl | rfl | rfl | rfl | rfl | rfl | rfl | rfl | rfl
  · dsimp only [Directive.url, Directive.urlWith] at parsed
    obtain ⟨_, -, -, rfl⟩ := Directive.Url.parse_ok_iff.1 parsed
    exact ⟨rfl, trivial⟩
  · dsimp only [Directive.version] at parsed
    obtain ⟨version, -, valid, rfl⟩ := Directive.Version.parse_ok_iff.1 parsed
    exact ⟨rfl, valid⟩
  · dsimp only [Directive.parameter] at parsed
    obtain ⟨raw, _, name, -, valid, rfl⟩ := Directive.Parameter.parse_ok_iff.1 parsed
    exact ⟨rfl, Name.isReserved_of_validate valid, Directive.Parameter.not_both a.keyword⟩
  · dsimp only [Directive.execute] at parsed
    obtain ⟨_, -, rfl⟩ := Directive.Execute.parse_ok_iff.1 parsed
    exact ⟨rfl, trivial⟩
  · dsimp only [Directive.model] at parsed
    rcases Directive.Model.parse_ok_iff.1 parsed with ⟨_, _, _, -, -, -, rfl⟩ | ⟨_, _, -, -, rfl⟩
    · exact ⟨rfl, trivial⟩
    · exact ⟨rfl, trivial⟩
  · dsimp only [Directive.persona] at parsed
    obtain ⟨_, _, -, -, rfl⟩ := Directive.Persona.parse_ok_iff.1 parsed
    exact ⟨rfl, trivial⟩
  · dsimp only [Directive.knowledge, Directive.knowledgeWith] at parsed
    obtain ⟨_, -, -, rfl⟩ := Directive.Knowledge.parse_ok_iff.1 parsed
    exact ⟨rfl, trivial⟩
  · dsimp only [Directive.expect] at parsed
    rcases Directive.Expect.parse_ok_iff.1 parsed with
      ⟨_, -, -, rfl⟩ | ⟨_, _, _, _, _, _, -, -, -, -, rfl⟩
    · exact ⟨rfl, trivial⟩
    · exact ⟨rfl, trivial⟩
  · dsimp only [Directive.postprocess] at parsed
    obtain ⟨_, -, -, rfl⟩ := Directive.Postprocess.parse_ok_iff.1 parsed
    exact ⟨rfl, trivial⟩
  · dsimp only [Directive.joker] at parsed
    obtain ⟨raw, name, -, valid, rfl⟩ := Directive.Joker.parse_ok_iff.1 parsed
    exact ⟨rfl, Name.isReserved_of_validate valid⟩
  · dsimp only [Directive.iterate] at parsed
    obtain ⟨_, _, _, rfl⟩ := Directive.Iterate.eq_of_parse parsed
    exact ⟨rfl, trivial⟩

theorem owner_of_parse {d : Directive} (member : d ∈ catalog) {a : Arguments} {c : Command}
    (parsed : d.parse a = .ok c) : d = owner c.kind :=
  (owned_of_parse member parsed).1

/-- **What is read from a line is admissible.** -/
theorem parse_admissible {line : String} {place : Place} {c : Command}
    (parsed : standard.parse line place = .ok c) : c.Admissible := by
  obtain ⟨d, member, -, a, parsed⟩ := parse_ok build_catalog parsed
  exact (owned_of_parse member parsed).2

end Grammar

end PromptPipeline
