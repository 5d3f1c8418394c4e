/-
# Proofs.Grammar.Spacing -- spacing and quotes do not change a command

A directive is given the line, a keyword and tokens with their positions.  Those in
`Command.Kind.ofWords` look at nothing but the texts of the tokens where they read a command
(`Directive.parse_ok_congr_words`); the line itself only goes into their refusals.  The keyword
and how many tokens spell it are found by the texts as well, so two lines with the same texts
are read as the same command, however these are spaced and quoted (`parse_respaced`).

The other three commands hold prose: a description or a source is cut out of the line with its
spacing and its backticks, so the law does not hold of them.
-/
import PromptPipeline.Proofs.Grammar.Arguments

namespace PromptPipeline

set_option autoImplicit false

open Markdown (IsLine)

/-- The kinds of command that are made of the words of a line. -/
def Command.Kind.ofWords : List Command.Kind :=
  [.url, .version, .execute, .model, .expectAmount, .expectFormat, .postprocess, .joker, .iterate]

/-- **A directive of words reads the same command from the same words**, whatever the line, the
keyword and the positions. -/
theorem Directive.parse_ok_congr_words {a b : Arguments} {c : Command}
    (kind : c.kind ∈ Command.Kind.ofWords) (words : a.words = b.words) :
    (Grammar.owner c.kind).parse a = .ok c ↔ (Grammar.owner c.kind).parse b = .ok c := by
  cases c with
  | url => simp only [Grammar.owner, Command.kind, url, urlWith, Url.parse_ok_iff, words]
  | version => simp only [Grammar.owner, Command.kind, version, Version.parse_ok_iff, words]
  | execute => simp only [Grammar.owner, Command.kind, execute, Execute.parse_ok_iff, words]
  | model => simp only [Grammar.owner, Command.kind, model, Model.parse_ok_iff, words]
  | expectAmount | expectFormat =>
      simp only [Grammar.owner, Command.kind, expect, Expect.parse_ok_iff, words]
  | postprocess =>
      simp only [Grammar.owner, Command.kind, postprocess, Postprocess.parse_ok_iff, words]
  | joker => simp only [Grammar.owner, Command.kind, joker, Joker.parse_ok_iff, words]
  | iterate => simp only [Grammar.owner, Command.kind, iterate, Iterate.parse_congr words]
  | parameter | persona | knowledge =>
      simp [Command.kind, Command.Kind.ofWords] at kind

namespace Grammar

variable {line other : String} {place : Place} {c : Command}

/-- What is read from a line is read from every line with its words. -/
theorem parse_of_words
    (same : (Token.ofLine (Text.trim line)).map (·.text)
      = (Token.ofLine (Text.trim other)).map (·.text))
    (isLine : IsLine other.toList) (kind : c.kind ∈ Command.Kind.ofWords)
    (parsed : standard.parse line place = .ok c) : standard.parse other place = .ok c := by
  obtain ⟨-, found, matched, used, read⟩ := parse_ok_iff.1 parsed
  have owned := owner_of_parse (mem_of_lookup build_catalog (matchUpTo_directive matched)) read
  have words : (argumentsOf found.keyword (Text.trim line) found.consumed).words
      = (argumentsOf found.keyword (Text.trim other) found.consumed).words := by
    rw [words_argumentsOf, words_argumentsOf, same]
  rw [owned, Directive.parse_ok_congr_words kind words, ← owned] at read
  exact parse_ok_iff.2 ⟨isLine, found, same ▸ matched, used, read⟩

/-- **Spacing and quotes do not change a command**: two lines with the same words give the same
commands of words, in every place. -/
theorem parse_respaced (isLine : IsLine line.toList) (isLine' : IsLine other.toList)
    (same : (Token.ofLine (Text.trim line)).map (·.text)
      = (Token.ofLine (Text.trim other)).map (·.text))
    (kind : c.kind ∈ Command.Kind.ofWords) :
    standard.parse line place = .ok c ↔ standard.parse other place = .ok c :=
  ⟨parse_of_words same isLine' kind, parse_of_words same.symm isLine kind⟩

/-- An execution with quotes around one word and around parts of two others. -/
theorem parse_respaced_dialog :
    standard.parse "EXEC `prompt dialog`" .template = .ok (.execute .promptDialog)
      ∧ standard.parse "\t`EXEC`  pro`mpt dia`log " .template
        = .ok (.execute .promptDialog) := by
  have parsed : standard.parse "EXEC `prompt dialog`" .template
      = .ok (.execute .promptDialog) := by decide +kernel
  have same : (Token.ofLine (Text.trim "EXEC `prompt dialog`")).map (·.text)
      = (Token.ofLine (Text.trim "\t`EXEC`  pro`mpt dia`log ")).map (·.text) := by
    decide +kernel
  exact ⟨parsed, (parse_respaced (by decide) (by decide) same (by decide)).1 parsed⟩

/-- A description keeps its spacing. -/
example : standard.parse "PARAMETER {x} a  b" .head ≠ standard.parse "PARAMETER {x} a b" .head := by
  decide +kernel

end Grammar

end PromptPipeline
