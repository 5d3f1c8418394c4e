/-
# Proofs.Grammar.Heard -- what was heard of a line that was read

Whatever the line of a command was, its words have characters, no backtick and no line end,
and its sources start with their first token.  What a line without backticks says as a
word has no blanks.
-/
import PromptPipeline.Proofs.Grammar.Arguments

namespace PromptPipeline.Grammar

set_option autoImplicit false

open Markdown (IsLine)
open Unicode (isBlank)

/-- A word of a line that was read. -/
theorem heard_word {keyword line word : String} {skipped : Nat} (isLine : IsLine line.toList)
    (member : word ∈ (argumentsOf keyword (Text.trim line) skipped).words) :
    word.toList ≠ [] ∧ '`' ∉ word.toList ∧ IsLine word.toList := by
  obtain ⟨filled, noTick, known⟩ := text_of_word member
  refine ⟨filled, noTick, IsLine.of_subset isLine fun c inside => ?_⟩
  have trimmed := known c inside
  rw [Text.toList_trim] at trimmed
  exact Text.mem_of_mem_strip trimmed

/-- A source of a line that was read. -/
theorem heard_source {keyword line word : String} {skipped : Nat}
    (isLine : IsLine line.toList) (index : Nat)
    (there : (argumentsOf keyword (Text.trim line) skipped).words[index]? = some word) :
    IsLine ((argumentsOf keyword (Text.trim line) skipped).sourceFrom index).toList
      ∧ Token.IsSource ((argumentsOf keyword (Text.trim line) skipped).sourceFrom index).toList
      ∧ (Token.ofLine
          ((argumentsOf keyword (Text.trim line) skipped).sourceFrom index)).map (·.text)
        = (argumentsOf keyword (Text.trim line) skipped).words.drop index := by
  have trimmed : Text.Trimmed isBlank (Text.trim line).toList :=
    Text.trim_eq_self_iff.1 (Text.trim_trim line)
  obtain ⟨t, -, is, isSource, texts⟩ := source_argumentsOf trimmed index there
  rw [Token.ofLine_eq, is]
  refine ⟨IsLine.of_subset isLine fun c inside => ?_, isSource, texts⟩
  have trimmed := List.mem_of_mem_drop inside
  rw [Text.toList_trim] at trimmed
  exact Text.mem_of_mem_strip trimmed

/-- A source of a line that was read is on one line, and starts with its first token if it
has any character. -/
theorem heard_rest (keyword : String) (skipped : Nat) {line : String}
    (isLine : IsLine line.toList) (index : Nat) :
    IsLine ((argumentsOf keyword (Text.trim line) skipped).sourceFrom index).toList
      ∧ ((argumentsOf keyword (Text.trim line) skipped).sourceFrom index ≠ ""
        → Token.IsSource
          ((argumentsOf keyword (Text.trim line) skipped).sourceFrom index).toList) := by
  cases there : (argumentsOf keyword (Text.trim line) skipped).words[index]? with
  | none =>
      rw [sourceFrom_of_none there]
      exact ⟨by decide, fun filled => absurd rfl filled⟩
  | some word =>
      obtain ⟨oneLine, isSource, -⟩ := heard_source isLine index there
      exact ⟨oneLine, fun _ => isSource⟩

/-- Where a line without backticks says a word, the word has no blanks. -/
theorem heard_solid {keyword lead word : String} {skipped : Nat} (noTick : '`' ∉ lead.toList)
    (said : (argumentsOf keyword (Text.trim (lead ++ word)) skipped).words = [word]) :
    ∀ c ∈ word.toList, Token.IsWordChar c := by
  have member : word ∈ (argumentsOf keyword (Text.trim (lead ++ word)) skipped).words := by
    rw [said]
    exact List.mem_singleton_self word
  refine solid_of_word (fun tick => ?_) member
  rw [Text.toList_trim] at tick
  have inside := Text.mem_of_mem_strip tick
  rw [String.toList_append, List.mem_append] at inside
  exact inside.elim noTick (text_of_word member).2.1

/-! ## What a keyword leaves -/

/-- A source of which the keyword before it absorbs nothing. -/
def Kept (source : String) : Prop := absorbed ((Token.ofLine source).map (·.text)) = 0

instance (source : String) : Decidable (Kept source) := inferInstanceAs (Decidable (_ = _))

end PromptPipeline.Grammar
