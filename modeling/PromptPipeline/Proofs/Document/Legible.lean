/-
# Proofs.Document.Legible -- what the blocks of a printed pipeline say

Printing escapes what would open another block and nothing that is marked inside of a
line, so a text may be read as another one.  `HeardAs` is the document that is heard if
every block is read on its own, and a pipeline is `Legible` if each of its texts is heard
as it was written.  The blocks are laid out from chunks that can be read.
-/
import Mathlib.Data.List.Forall2
import Mathlib.Data.List.TakeWhile
import PromptPipeline.Proofs.Document.Escape
import PromptPipeline.Proofs.Document.Layout
import PromptPipeline.Proofs.Grammar.Write

namespace PromptPipeline.Document

set_option autoImplicit false

open Markdown (Chunk IsLine)

/-! ## Blocks that are heard -/

/-- What the heading of a title says. -/
structure HeardTitle (title said : String) : Prop where
  isLine : IsLine title.toList
  spoken : spoken .heading (Chunk.headingText (escapeHeading title).toList) = some said

/-- The lines of a paragraph as they are written. -/
def writtenLines (part : String) : List (List Char) :=
  (Text.splitAt (· == '\n') part.toList).map escapeLine

/-- What the paragraph of a part of a description says. -/
structure HeardPart (part said : String) : Prop where
  noReturn : '\r' ∉ part.toList
  filled : ∀ line ∈ writtenLines part, line ≠ []
  noDefinition : Markdown.Link.definition? (Text.joinWith ['\n'] (writtenLines part)) = none
  spoken : spoken .prose (Text.joinWith ['\n'] (writtenLines part)) = some said
  notEmpty : said ≠ ""

/-- The parts of a text between empty lines. -/
def partsOf : List Char → List (List Char)
  | [] => [[]]
  | '\n' :: '\n' :: rest => [] :: partsOf rest
  | c :: rest =>
      match partsOf rest with
      | [] => [[c]]
      | part :: parts => (c :: part) :: parts

/-- The parts of a description. -/
def descriptionParts : Option String → List String
  | none => []
  | some text => (partsOf text.toList).map String.ofList

/-- The description that consists of some parts. -/
def descriptionOf (parts : List String) : Option String :=
  if parts.isEmpty then none else some (Text.join "\n\n" parts)

/-- What the paragraphs of a description say. -/
def HeardDescription (description heard : Option String) : Prop :=
  ∃ said, List.Forall₂ HeardPart (descriptionParts description) said ∧ descriptionOf said = heard

/-- What the item of a command says. -/
def HeardCommand (g : Grammar) (c : Command) (said : String) : Prop :=
  ∃ line, g.write c = .ok line ∧ IsLine line.toList ∧ spoken .item line.toList = some said
    ∧ said ≠ ""

/-- The language that the fence of a body says. -/
def heardLanguage (language : Option String) : Option String :=
  Extraction.languageOf (some (String.ofList (Markdown.Link.unescape
    (Text.strip Markdown.isSpace (language.getD "").toList))))

/-- The line that names the result of a template. -/
def resultLine (t : Template) : String := "-> " ++ braced t.result

/-- The result that prose names behind an arrow. -/
def namedResult (said : String) : Option String :=
  match said.toList with
  | '-' :: '>' :: rest => some (String.ofList (Text.strip Unicode.isBlank rest))
  | _ => none

/-! ## Sections that are heard -/

/-- What the blocks of a head say. -/
structure HeardHead (g : Grammar) (p : Pipeline) (s : Section) : Prop where
  description : HeardDescription p.description s.description
  commands : List.Forall₂ (fun c (line : CommandLine) => HeardCommand g c line.text)
    (headCommands g p) s.commands
  untitled : s.title = ""
  noCode : s.code = []
  noResult : s.result = none

/-- What the blocks of a template say. -/
structure HeardTemplate (g : Grammar) (p : Pipeline) (t : Template) (s : Section) : Prop where
  title : HeardTitle t.title s.title
  description : HeardDescription t.description s.description
  commands : List.Forall₂ (fun c (line : CommandLine) => HeardCommand g c line.text)
    (templateCommands g ⟨t, p⟩) s.commands
  noReturn : '\r' ∉ t.content.toList
  languageIsLine : IsLine (t.language.getD "").toList
  noTick : '\x60' ∉ (t.language.getD "").toList
  code : ∃ line, s.code = [⟨heardLanguage t.language, t.content, line⟩]
  resultIsLine : IsLine t.result.toList
  result : ∃ raw, (spoken .prose (resultLine t).toList).bind namedResult = some raw
    ∧ s.result = some raw

/-- **What the blocks of a printed pipeline say**, each read on its own. -/
structure HeardAs (g : Grammar) (p : Pipeline) (d : Document) : Prop where
  untitled : p.title = "" → d.title = none
  titled : p.title ≠ "" → ∃ said, HeardTitle p.title said ∧ d.title = some said
  head : HeardHead g p d.head
  templates : List.Forall₂ (HeardTemplate g p) p.templates d.templates

/-! ## Legible texts -/

/-- A description, if there is one, whose parts say themselves. -/
def LegibleDescription (description : Option String) : Prop :=
  ∀ part ∈ descriptionParts description, HeardPart part part

/-- A command that is read from what its item says. -/
def LegibleCommand (g : Grammar) (place : Place) (c : Command) : Prop :=
  ∃ line ∈ (g.write c).toOption, IsLine line.toList
    ∧ (spoken .item line.toList).map (g.parse · place) = some (.ok c)

/-- A template that its section says. -/
structure LegibleTemplate (g : Grammar) (p : Pipeline) (t : Template) : Prop where
  title : HeardTitle t.title t.title
  description : LegibleDescription t.description
  commands : ∀ c ∈ templateCommands g ⟨t, p⟩, LegibleCommand g .template c
  noReturn : '\r' ∉ t.content.toList
  languageIsLine : IsLine (t.language.getD "").toList
  noTick : '\x60' ∉ (t.language.getD "").toList
  language : heardLanguage t.language = t.language
  resultIsLine : IsLine t.result.toList
  result : ((spoken .prose (resultLine t).toList).bind namedResult).map Name.validate
    = some (.ok t.result)

/-- **A pipeline that its document says.** -/
structure Legible (g : Grammar) (p : Pipeline) : Prop where
  title : p.title ≠ "" → HeardTitle p.title p.title
  description : LegibleDescription p.description
  commands : ∀ c ∈ headCommands g p, LegibleCommand g .head c
  templates : ∀ t ∈ p.templates, LegibleTemplate g p t

/-! ## Deciding what is legible -/

instance (title said : String) : Decidable (HeardTitle title said) :=
  decidable_of_iff (_ ∧ _) ⟨fun ⟨isLine, spoken⟩ => ⟨isLine, spoken⟩,
    fun h => ⟨h.isLine, h.spoken⟩⟩

instance (part said : String) : Decidable (HeardPart part said) :=
  decidable_of_iff (_ ∧ _ ∧ _ ∧ _ ∧ _)
    ⟨fun ⟨noReturn, filled, noDefinition, spoken, notEmpty⟩ =>
        ⟨noReturn, filled, noDefinition, spoken, notEmpty⟩,
      fun h => ⟨h.noReturn, h.filled, h.noDefinition, h.spoken, h.notEmpty⟩⟩

instance (description : Option String) : Decidable (LegibleDescription description) :=
  inferInstanceAs (Decidable (∀ part ∈ descriptionParts description, HeardPart part part))

instance (g : Grammar) (place : Place) (c : Command) : Decidable (LegibleCommand g place c) :=
  inferInstanceAs (Decidable (∃ line ∈ (g.write c).toOption, _ ∧ _))

instance (g : Grammar) (p : Pipeline) (t : Template) : Decidable (LegibleTemplate g p t) :=
  decidable_of_iff (_ ∧ _ ∧ _ ∧ _ ∧ _ ∧ _ ∧ _ ∧ _ ∧ _)
    ⟨fun ⟨title, description, commands, noReturn, languageIsLine, noTick, language, resultIsLine,
        result⟩ => ⟨title, description, commands, noReturn, languageIsLine, noTick, language,
        resultIsLine, result⟩,
      fun h => ⟨h.title, h.description, h.commands, h.noReturn, h.languageIsLine, h.noTick,
        h.language, h.resultIsLine, h.result⟩⟩

instance (g : Grammar) (p : Pipeline) : Decidable (Legible g p) :=
  decidable_of_iff (_ ∧ _ ∧ _ ∧ _)
    ⟨fun ⟨title, description, commands, templates⟩ => ⟨title, description, commands, templates⟩,
      fun h => ⟨h.title, h.description, h.commands, h.templates⟩⟩

/-! ## Chunks -/

/-- The heading of a title. -/
def titleChunk (level : Nat) (title : String) : Chunk := .heading level (escapeHeading title).toList

/-- The paragraph of a part of a description. -/
def partChunk (part : String) : Chunk :=
  .paragraph ((writtenLines part).headD []) (writtenLines part).tail

/-- The paragraphs of a description. -/
def partGroups (parts : List String) : List (List Chunk) :=
  if parts.isEmpty then [] else [parts.map partChunk]

/-- The list of command lines. -/
def listGroups : List String → List (List Chunk)
  | [] => []
  | first :: more => [[.items first.toList (more.map String.toList)]]

/-- The fenced body of a template. -/
def bodyChunk (t : Template) : Chunk :=
  .code (max (longestRun 0 t.content.toList + 1) 3) (t.language.getD "").toList
    (Text.splitAt (· == '\n') t.content.toList)

/-- The paragraph that names the result of a template. -/
def resultChunk (t : Template) : Chunk := .paragraph (resultLine t).toList []

theorem cons_writtenLines (part : String) :
    (writtenLines part).headD [] :: (writtenLines part).tail = writtenLines part := by
  obtain ⟨first, more, is⟩ :=
    List.exists_cons_of_ne_nil (Text.splitAt_ne_nil (· == '\n') part.toList)
  rw [writtenLines, is]
  rfl

theorem lines_partChunk (part : String) : (partChunk part).lines = writtenLines part :=
  cons_writtenLines part

/-! ## Blocks -/

theorem block_title (level : Nat) (title : String) :
    block [titleChunk level title]
      = String.ofList (List.replicate level '#') ++ " " ++ escapeHeading title := by
  apply String.toList_inj.1
  simp [block, titleChunk, Markdown.layout, Chunk.lines, Text.joinWith]

theorem block_list (lines : List String) :
    listBlock lines = (listGroups lines).map block := by
  cases lines with
  | nil => rfl
  | cons first more =>
      have items : ((first :: more).map ("- " ++ ·)).map String.toList
          = ((first :: more).map String.toList).map Markdown.itemLine := by
        rw [List.map_map, List.map_map]
        refine List.map_congr_left fun line _ => ?_
        show ("- " ++ line).toList = _
        rw [String.toList_append]
        rfl
      show [Text.join "\n" ((first :: more).map ("- " ++ ·))] = _
      rw [Text.join, items]
      rfl

theorem block_body (t : Template) :
    block [bodyChunk t]
      = fence t.content ++ t.language.getD "" ++ "\n" ++ t.content ++ "\n" ++ fence t.content := by
  apply String.toList_inj.1
  have split := Text.splitAt_ne_nil (· == '\n') t.content.toList
  have joined := Text.joinWith_splitAt '\n' t.content.toList
  rw [block, bodyChunk, Markdown.layout, Chunk.lines,
    Text.joinWith_cons _ _ (List.append_ne_nil_of_left_ne_nil split _),
    Text.joinWith_append _ split (List.cons_ne_nil _ _), joined]
  simp [fence, Text.joinWith]

theorem block_result (t : Template) : block [resultChunk t] = resultLine t := by
  simp [block, resultChunk, Markdown.layout, Chunk.lines, Text.joinWith]

/-! ## Blocks of descriptions -/

/-- The lines of a text that has no carriage return and does not end with a line end. -/
theorem linesOf_eq_splitAt {s : List Char} (noReturn : '\r' ∉ s)
    (filled : ∀ last, (Text.splitAt (· == '\n') s).getLast? = some last → last ≠ []) :
    linesOf s = Text.splitAt (· == '\n') s := by
  have clean : ∀ line ∈ Text.splitAt (· == '\n') s, '\r' ∉ line := by
    intro line member inside
    have within := Text.infix_joinWith ['\n'] member
    rw [Text.joinWith_splitAt] at within
    exact noReturn (within.subset inside)
  have split := Text.splitAt_ne_nil (· == '\n') s
  unfold linesOf
  generalize Text.splitAt (· == '\n') s = pieces at filled clean split ⊢
  obtain ⟨before, last, rfl⟩ : ∃ before last, pieces = before ++ [last] :=
    ⟨pieces.dropLast, pieces.getLast split, (List.dropLast_append_getLast split).symm⟩
  have lastFilled : last ≠ [] := filled last (by simp)
  have same : before.map (fun line => if line.getLast? = some '\r' then line.dropLast else line)
      = before := by
    refine (List.map_congr_left fun line member => ?_).trans before.map_id
    have stays : line.getLast? ≠ some '\r' := fun ends =>
      clean line (by simp [member]) (List.mem_of_getLast? ends)
    exact if_neg stays
  simp [same, lastFilled]

theorem escapeLine_nil : escapeLine [] = [] := rfl

/-- The written lines of all parts, with a blank line between neighbours. -/
theorem map_escapeLine_join {parts : List String} (nonempty : parts ≠ []) :
    (Text.splitAt (· == '\n') (Text.joinWith ['\n', '\n'] (parts.map String.toList))).map escapeLine
      = Markdown.layout (parts.map partChunk) := by
  induction parts with
  | nil => exact absurd rfl nonempty
  | cons first parts ih =>
      cases parts with
      | nil => exact (lines_partChunk first).symm
      | cons second parts =>
          have rest := ih (List.cons_ne_nil _ _)
          rw [List.map_cons, List.map_cons] at rest
          have blank (s : List Char) : Text.splitAt (· == '\n') ('\n' :: s)
              = [] :: Text.splitAt (· == '\n') s := rfl
          rw [List.map_cons, List.map_cons, Text.joinWith_cons_cons, List.append_assoc,
            List.cons_append, List.singleton_append, Text.splitAt_append, blank, List.map_append,
            List.map_cons, escapeLine_nil, rest, List.map_cons, List.map_cons,
            Markdown.layout_cons_cons, lines_partChunk]
          rfl

/-- The last written line is not blank. -/
theorem getLast?_layout_parts {parts : List String} (nonempty : parts ≠ [])
    (filled : ∀ part ∈ parts, ∀ line ∈ writtenLines part, line ≠ []) {line : List Char}
    (last : (Markdown.layout (parts.map partChunk)).getLast? = some line) : line ≠ [] := by
  induction parts with
  | nil => exact absurd rfl nonempty
  | cons first parts ih =>
      obtain ⟨here, others⟩ := List.forall_mem_cons.1 filled
      cases parts with
      | nil =>
          have member := List.mem_of_getLast? last
          rw [List.map_cons, List.map_nil, Markdown.layout, lines_partChunk] at member
          exact here line member
      | cons second parts =>
          obtain ⟨before, rest, is⟩ : ∃ before rest,
              Markdown.layout ((second :: parts).map partChunk) = before :: rest :=
            List.exists_cons_of_ne_nil (layout_ne_nil _)
          refine ih (List.cons_ne_nil _ _) others ?_
          rw [List.map_cons, List.map_cons, Markdown.layout_cons_cons, ← List.map_cons, is] at last
          rw [is]
          simpa [List.getLast?_append] using last

/-- A blank line is written as an empty one. -/
theorem escapeLine_of_blank {line : List Char} (blank : ∀ c ∈ line, Unicode.isBlank c = true) :
    escapeLine line = [] := by
  have dropped : Text.dropLeading Unicode.isBlank line = [] := List.dropWhile_eq_nil_iff.2 blank
  unfold escapeLine
  rw [dropped]
  rfl

theorem partsOf_ne_nil (s : List Char) : partsOf s ≠ [] := by
  unfold partsOf
  split
  · exact List.cons_ne_nil _ _
  · exact List.cons_ne_nil _ _
  · split
    · exact List.cons_ne_nil _ _
    · exact List.cons_ne_nil _ _

/-- The parts of a text with empty lines between them are the text. -/
theorem joinWith_partsOf (s : List Char) : Text.joinWith ['\n', '\n'] (partsOf s) = s := by
  fun_induction partsOf s with
  | case1 => rfl
  | case2 rest ih =>
      rw [Text.joinWith_cons _ _ (partsOf_ne_nil rest), ih]
      rfl
  | case3 c rest _ none => exact absurd none (partsOf_ne_nil rest)
  | case4 c rest _ part parts is ih =>
      rw [is] at ih
      cases parts with
      | nil => exact congrArg _ ih
      | cons second parts =>
          rw [Text.joinWith_cons_cons] at ih ⊢
          rw [List.cons_append, List.cons_append, ih]

/-- A part without blank lines is not blank. -/
theorem exists_not_isBlank {part : String} (filled : ∀ line ∈ writtenLines part, line ≠ []) :
    ∃ c ∈ part.toList, Unicode.isBlank c = false := by
  obtain ⟨line, lines, is⟩ :=
    List.exists_cons_of_ne_nil (Text.splitAt_ne_nil (· == '\n') part.toList)
  have member : line ∈ Text.splitAt (· == '\n') part.toList := is ▸ List.mem_cons_self
  have notEmpty := filled (escapeLine line) (List.mem_map_of_mem member)
  have within := Text.infix_joinWith ['\n'] member
  rw [Text.joinWith_splitAt] at within
  by_contra none
  refine notEmpty (escapeLine_of_blank fun c inside => ?_)
  by_contra solid
  exact none ⟨c, within.subset inside, Bool.eq_false_iff.2 solid⟩

/-- The parts of a description are the description. -/
theorem descriptionOf_parts (description : Option String) :
    descriptionOf (descriptionParts description) = description := by
  cases description with
  | none => rfl
  | some text =>
      have nonempty : (descriptionParts (some text)).isEmpty = false := by
        rw [descriptionParts, List.isEmpty_map]
        exact List.isEmpty_eq_false_iff.2 (partsOf_ne_nil _)
      have pieces : (descriptionParts (some text)).map String.toList = partsOf text.toList := by
        rw [descriptionParts, List.map_map]
        refine (List.map_congr_left fun piece _ => ?_).trans (List.map_id _)
        exact String.toList_ofList
      rw [descriptionOf, nonempty, if_neg Bool.false_ne_true, Text.join, pieces]
      have separator : "\n\n".toList = ['\n', '\n'] := rfl
      rw [separator, joinWith_partsOf, String.ofList_toList]

/-- **The block of a description is laid out from its parts** unless a line is blank. -/
theorem block_parts {parts : List String} (noReturn : ∀ part ∈ parts, '\r' ∉ part.toList)
    (filled : ∀ part ∈ parts, ∀ line ∈ writtenLines part, line ≠ []) :
    descriptionBlock (descriptionOf parts) = (partGroups parts).map block := by
  by_cases none : parts = []
  · subst none
    rfl
  · have chars : (Text.join "\n\n" parts).toList
        = Text.joinWith ['\n', '\n'] (parts.map String.toList) := String.toList_ofList
    have written := map_escapeLine_join none
    have clean : '\r' ∉ (Text.join "\n\n" parts).toList := by
      rw [chars]
      intro inside
      rcases Text.mem_joinWith inside with between | ⟨piece, member, inside⟩
      · simp at between
      · obtain ⟨part, there, rfl⟩ := List.mem_map.1 member
        exact noReturn part there inside
    have ended : ∀ last, (Text.splitAt (· == '\n') (Text.join "\n\n" parts).toList).getLast?
        = some last → last ≠ [] := by
      rintro _ ends rfl
      rw [chars] at ends
      refine getLast?_layout_parts none filled ?_ rfl
      rw [← written, List.getLast?_map, ends]
      rfl
    have notBlank : Text.blank (Text.join "\n\n" parts) = false := by
      obtain ⟨part, rest, rfl⟩ := List.exists_cons_of_ne_nil none
      obtain ⟨c, inside, solid⟩ := exists_not_isBlank (filled part List.mem_cons_self)
      have within := Text.infix_joinWith ['\n', '\n']
        (List.mem_map_of_mem (f := String.toList) (List.mem_cons_self (a := part) (l := rest)))
      refine List.all_eq_false.2 ⟨c, ?_, Bool.eq_false_iff.1 solid⟩
      rw [chars]
      exact within.subset inside
    have some : parts.isEmpty = false := List.isEmpty_eq_false_iff.2 none
    rw [descriptionOf, some, if_neg Bool.false_ne_true, descriptionBlock]
    simp only [notBlank, Bool.false_eq_true, if_false]
    rw [linesOf_eq_splitAt clean ended, chars, written]
    simp [partGroups, none, block]

end PromptPipeline.Document
