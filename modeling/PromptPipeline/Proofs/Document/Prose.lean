/-
# Proofs.Document.Prose -- an escaped line on its own

Escaping is for what would open another block than a paragraph.  A document that is one
escaped line never has a heading, a list, a quote, a rule, code or HTML, so the line becomes
no command and no body (`ofSource_escapeLine`).  It is a paragraph unless it defines a link:
a bracket is not escaped, and the line of a definition is lost
(`ofSource_escapeLine_lost`).
-/
import PromptPipeline.Proofs.Document.Inlines
import PromptPipeline.Proofs.Document.ReadBack

namespace PromptPipeline

set_option autoImplicit false

/-! ## Definitions of links -/

namespace Markdown.Link

theorem labelChars?_eq_some {s label after : List Char}
    (found : labelChars? s = some (label, after)) : s = label ++ ']' :: after := by
  fun_induction labelChars? s generalizing label with
  | case1 => cases found
  | case2 rest =>
      cases found
      rfl
  | case3 => cases found
  | case4 c rest ih =>
      obtain ⟨⟨inside, behind⟩, there, same⟩ := Option.map_eq_some_iff.1 found
      cases same
      rw [ih there]
      rfl
  | case5 c rest _ _ _ ih =>
      obtain ⟨⟨inside, behind⟩, there, same⟩ := Option.map_eq_some_iff.1 found
      cases same
      rw [ih there]
      rfl

/-- A definition starts with a label in brackets and a colon. -/
theorem definition?_eq_some {s : List Char} {found : Definition × List Char}
    (defines : definition? s = some found) :
    ∃ label after, s = '[' :: (label ++ ']' :: ':' :: after) := by
  unfold definition? at defines
  split at defines
  · rename_i rest
    obtain ⟨⟨normal, behind⟩, labelled, goesOn⟩ := Option.bind_eq_some_iff.1 defines
    obtain ⟨⟨label, after⟩, chars, checked⟩ := Option.bind_eq_some_iff.1 labelled
    obtain ⟨-, -, same⟩ := Option.bind_eq_some_iff.1 checked
    cases same
    rw [labelChars?_eq_some chars]
    dsimp only at goesOn
    split at goesOn
    · exact ⟨label, _, rfl⟩
    · cases goesOn
  · cases defines

end Markdown.Link

namespace Document

open Markdown (Chunk Event IsLine Tree)
open Markdown.Link (definition?)

/-! ## Escaped lines -/

theorem escapeLine_ne_nil {line : List Char} (solid : ∃ c ∈ line, Unicode.isBlank c = false) :
    escapeLine line ≠ [] := by
  have filled : Text.dropLeading Unicode.isBlank line ≠ [] := by
    obtain ⟨c, member, notBlank⟩ := solid
    intro dropped
    rw [List.dropWhile_eq_nil_iff.1 dropped c member] at notBlank
    cases notBlank
  unfold escapeLine
  generalize Text.dropLeading Unicode.isBlank line = s at filled ⊢
  dsimp only
  split
  · simp
  · simp
  · split
    · exact absurd rfl filled
    · simp
    · split
      · simp
      · simp

/-- A bracket is not escaped, and nothing that is escaped starts with one. -/
theorem dropLeading_of_escapeLine {line rest : List Char}
    (bracket : escapeLine line = '[' :: rest) :
    Text.dropLeading Unicode.isBlank line = '[' :: rest := by
  have noDigit {s digits after : List Char} {d : Char}
      (number : s.takeWhile Char.isDigit = d :: digits)
      (same : d :: (digits ++ after) = '[' :: rest) : False := by
    obtain ⟨rfl, -⟩ := List.cons.inj same
    have digit : Char.isDigit '[' = true :=
      List.mem_takeWhile_imp (number ▸ List.mem_cons_self)
    cases digit
  unfold escapeLine at bracket
  generalize Text.dropLeading Unicode.isBlank line = s at bracket ⊢
  dsimp only at bracket
  split at bracket
  · rename_i number _
    rw [number] at bracket
    exact (noDigit number bracket).elim
  · rename_i number _
    rw [number] at bracket
    exact (noDigit number bracket).elim
  · split at bracket
    · cases bracket
    · simp at bracket
    · split at bracket
      · cases bracket
      · exact bracket

/-! ## A paragraph on its own -/

/-- A paragraph that is the first to be told is the prose, unless nothing is heard of it. -/
theorem tells_paragraph {source text : List Char} {said : String}
    (spoke : spoken .prose text = some said) (noArrow : hasArrowAt source 0 = false) :
    TellsAt source 0 (.paragraph text []) {} { prose := if said ≠ "" then [said] else [] } := by
  split
  · rename_i filled
    exact Extraction.tells_prose spoke (isEmpty_of_ne filled) noArrow
  · rename_i silent
    intro line start
    rw [not_not.1 silent] at spoke
    obtain ⟨heard, named, told⟩ := @Extraction.tell_paragraph source 0 {} (lineStarts source) text
      [] "" spoke line start
    have empty : Text.strip Unicode.isBlank heard = [] := String.ofList_injective named
    refine ⟨lineAt (lineStarts source) 0, 0, told.trans ?_⟩
    unfold Extraction.flush
    simp only [empty]
    rfl

/-- A document that is one paragraph has what is heard of it as its description. -/
theorem ofEvents_paragraph {source text : List Char} {said : String}
    (spoke : spoken .prose text = some said) (noArrow : hasArrowAt source 0 = false) :
    ofEvents source (Event.wrap .paragraph 0 (Markdown.Inline.events [] text))
      = .ok ⟨none, { description := if said ≠ "" then some said else none }, []⟩ := by
  obtain ⟨line, start, told⟩ := tells_paragraph spoke noArrow 1 0
  have gives : ({ prose := if said ≠ "" then [said] else [] } : Told).Gives
      ⟨none, { description := if said ≠ "" then some said else none }, []⟩ := by
    refine ⟨rfl, ?_⟩
    unfold Told.described
    split
    · simp [Text.join, Text.joinWith]
    · rfl
  show (Event.wrap .paragraph 0 (Markdown.Inline.events [] text)).foldlM
    (Extraction.tell source (lineStarts source)) (({} : Told).rest 1 0) >>= _ = _
  have same : (Chunk.paragraph text []).events 0
      = Event.wrap .paragraph 0 (Markdown.Inline.events [] text) := rfl
  rw [← same, told]
  exact Extraction.finish_rest gives source line start

/-! ## An escaped line on its own -/

/-- **What an escaped line is read as.**  It is a paragraph exactly if it does not define a link,
and in any case there is no command, no code, no template and no result. -/
theorem ofSource_escapeLine {line : List Char} (isLine : IsLine line)
    (solid : ∃ c ∈ line, Unicode.isBlank c = false) :
    let text := escapeLine line
    let source := String.ofList text
    (Tree.ofSource source = ⟨[.leaf (.paragraph text) 0], []⟩ ↔ definition? text = none)
      ∧ (∀ definition rest, definition? text = some (definition, rest) →
        Tree.ofSource source = ⟨[], [definition]⟩
          ∧ Text.dropLeading Unicode.isBlank line = text
          ∧ ∃ label after, text = '[' :: (label ++ ']' :: ':' :: after))
      ∧ ∃ said, spoken .prose text = some said
        ∧ ofSource source = .ok {
          title := none
          head := { description :=
            if definition? text = none ∧ said ≠ "" then some said else none }
          templates := [] } := by
  intro text source
  have filled : text ≠ [] := escapeLine_ne_nil solid
  have plain := plain_escapeLine filled
  have isLine : IsLine text := isLine_of_subset isLine fun _ => mem_escapeLine
  have noArrow : hasArrowAt source.toList 0 = false := by
    have starts := hasArrowAt_escapeLine filled [] []
    rwa [List.nil_append, List.append_nil, ← String.toList_ofList (l := escapeLine line)] at starts
  obtain ⟨said, spoke⟩ := exists_spoken .prose text
  cases defines : definition? text with
  | none =>
      have read := Markdown.ofSource_plain plain isLine defines
      have wrapped : Tree.events ⟨[.leaf (.paragraph text) 0], []⟩
          = Event.wrap .paragraph 0 (Markdown.Inline.events [] text) := by
        simp [Tree.events, Markdown.Block.eventsOf, Markdown.Block.events, Markdown.Leaf.events]
      refine ⟨iff_of_true read rfl, ?_, said, spoke, ?_⟩
      · intro _ _ other
        cases other
      · unfold ofSource Markdown.events
        rw [read, wrapped, ofEvents_paragraph spoke noArrow]
        simp
  | some found =>
      obtain ⟨definition, rest⟩ := found
      have read := Markdown.ofSource_definition plain isLine defines
      obtain ⟨label, after, shape⟩ := Markdown.Link.definition?_eq_some defines
      refine ⟨iff_of_false ?_ (Option.some_ne_none _), ?_, said, spoke, ?_⟩
      · rw [read]
        simp
      · intro _ _ same
        cases same
        exact ⟨read, (dropLeading_of_escapeLine shape).trans shape.symm, label, after, shape⟩
      · unfold ofSource Markdown.events
        rw [read]
        rfl

/-- A number that would start a list, behind white space. -/
theorem ofSource_escapeLine_year :
    let line := "  1986. A good year.".toList
    let text := "1986\\. A good year.".toList
    IsLine line ∧ (∃ c ∈ line, Unicode.isBlank c = false)
      ∧ Tree.ofSource (String.ofList (escapeLine line)) = ⟨[.leaf (.paragraph text) 0], []⟩
      ∧ ofSource (String.ofList (escapeLine line))
        = .ok ⟨none, { description := some "1986. A good year." }, []⟩ := by
  intro line text
  have isLine : IsLine line := by decide
  have solid : ∃ c ∈ line, Unicode.isBlank c = false := ⟨'1', by decide, by decide⟩
  have escaped : escapeLine line = text := by decide
  have noDefinition : definition? text = none := by decide
  have spoke : spoken .prose text = some "1986. A good year." := by decide +kernel
  obtain ⟨prose, -, said, spoken, told⟩ := ofSource_escapeLine isLine solid
  rw [escaped] at prose spoken told
  obtain rfl := Option.some.inj (spoken.symm.trans spoke)
  rw [escaped]
  exact ⟨isLine, solid, prose.2 noDefinition, told.trans (by rw [noDefinition]; rfl)⟩

/-- **A line that defines a link is lost**: it is no paragraph, and nothing is told of it. -/
theorem ofSource_escapeLine_lost :
    let line := "[x]: y".toList
    IsLine line ∧ (∃ c ∈ line, Unicode.isBlank c = false)
      ∧ (¬∃ text,
        Tree.ofSource (String.ofList (escapeLine line)) = ⟨[.leaf (.paragraph text) 0], []⟩)
      ∧ ofSource (String.ofList (escapeLine line)) = .ok ⟨none, {}, []⟩ := by
  intro line
  have noBlock : (Tree.ofSource (String.ofList (escapeLine line))).blocks.isEmpty = true := by
    decide +kernel
  refine ⟨by decide, ⟨'x', by decide, by decide⟩, ?_, by decide +kernel⟩
  rintro ⟨text, read⟩
  rw [read] at noBlock
  cases noBlock

end Document

end PromptPipeline
