/-
# Proofs.Document.Told -- what a block tells where nothing is open

Where nothing is open, every block of a printed pipeline extends what has been told in
one way and leaves nothing open: a heading gives the title or starts a template, a
paragraph is prose or names a result, a list is commands, and a code block is code.
-/
import PromptPipeline.Proofs.Document.Heard
import PromptPipeline.Proofs.Markdown.Chunks

namespace PromptPipeline.Document

set_option autoImplicit false

open Markdown (Event Tag Chunk)

/-! ## Places in a source -/

theorem dropBytes?_append (before rest : List Char) :
    dropBytes? (Text.byteLength before) (before ++ rest) = some rest := by
  induction before with
  | nil =>
      rw [Text.byteLength_nil, List.nil_append, dropBytes?]
  | cons c before ih =>
      have positive : 0 < c.utf8Size := c.utf8Size_pos
      obtain ⟨n, size⟩ : ∃ n, Text.byteLength (c :: before) = n + 1 :=
        ⟨Text.byteLength (c :: before) - 1, by rw [Text.byteLength_cons]; omega⟩
      have left : n + 1 - c.utf8Size = Text.byteLength before := by
        rw [← size, Text.byteLength_cons]
        omega
      have fits : c.utf8Size ≤ n + 1 := by
        rw [← size, Text.byteLength_cons]
        omega
      rw [size, List.cons_append, dropBytes?, if_pos fits, left, ih]

theorem hasArrowAt_append (before rest : List Char) :
    hasArrowAt (before ++ rest) (Text.byteLength before)
      = ['-', '>'].isPrefixOf (Text.dropLeading Unicode.isBlank rest) := by
  simp [hasArrowAt, dropBytes?_append]

/-! ## Where nothing is open -/

/-- What has been told where nothing is open. -/
structure Told where
  title : Option String := none
  before : List Section := []
  current : Section := {}
  prose : List String := []

namespace Told

/-- The extraction that has been told so much, where the last paragraph has started on a
line and at a byte. -/
def rest (t : Told) (line start : Nat) : Extraction :=
  { title := t.title
    before := t.before
    current := t.current
    prose := t.prose
    paragraphLine := line
    paragraphStart := start }

/-- With further command lines in the current section. -/
def withCommands (t : Told) (lines : List CommandLine) : Told :=
  { t with current := { t.current with commands := t.current.commands ++ lines } }

theorem withCommands_nil (t : Told) : t.withCommands [] = t := by
  simp [withCommands]

theorem withCommands_append (t : Told) (lines more : List CommandLine) :
    (t.withCommands lines).withCommands more = t.withCommands (lines ++ more) := by
  simp [withCommands]

/-- The current section with the prose as its description. -/
def described (t : Told) : Section :=
  if t.prose.isEmpty then t.current
  else { t.current with description := some (Text.join "\n\n" t.prose.reverse) }

end Told

/-- A chunk that starts at a byte extends what has been told. -/
def TellsAt (source : List Char) (offset : Nat) (c : Chunk) (t t' : Told) : Prop :=
  ∀ line start, ∃ line' start',
    (c.events offset).foldlM (Extraction.tell source (lineStarts source)) (t.rest line start)
      = .ok (t'.rest line' start')

namespace Extraction

variable {source : List Char} {starts : List Nat} {offset : Nat} {t : Told}

/-- What a construct tells: its start, what is in it and its end. -/
theorem foldlM_wrap {tag : Tag} {inner : List Event} {x x₁ x₂ : Extraction}
    (entered : x.enter source (lineAt starts offset) offset tag = .ok x₁)
    (told : inner.foldlM (tell source starts) x₁ = .ok x₂) :
    (Event.wrap tag offset inner).foldlM (tell source starts) x = x₂.leave source tag := by
  have enters : x.tell source starts (.enter tag offset) = .ok x₁ := entered
  rw [Event.wrap, List.foldlM_cons, enters]
  show (inner ++ [Event.leave tag]).foldlM (tell source starts) x₁ = _
  rw [List.foldlM_append, told]
  show [Event.leave tag].foldlM (tell source starts) x₂ = _
  rw [List.foldlM_cons]
  show (x₂.leave source tag >>= fun s => pure s) = _
  rw [bind_pure]

/-! ## Headings -/

theorem tell_heading (starts : List Nat) (level : Nat) {text : List Char} {title : String}
    (said : spoken .heading (Chunk.headingText text) = some title) (line start : Nat) :
    ∃ heard, String.ofList (Text.strip Unicode.isBlank heard) = title
      ∧ ((Chunk.heading level text).events offset).foldlM (tell source starts) (t.rest line start)
        = .ok { t.rest line start with
            heading := some ⟨level, heard, lineAt starts offset⟩ }.closeHeading := by
  obtain ⟨heard, hears, named⟩ := Option.map_eq_some_iff.1 said
  have isIn : { t.rest line start with heading := some ⟨level, [], lineAt starts offset⟩ }.IsIn
      .heading := rfl
  exact ⟨heard, named, foldlM_wrap rfl (foldlM_tell source starts isIn hears)⟩

theorem tells_title {text : List Char} {title : String}
    (said : spoken .heading (Chunk.headingText text) = some title) (free : t.title = none) :
    TellsAt source offset (.heading 1 text) t { t with title := some title } := by
  intro line start
  obtain ⟨heard, rfl, told⟩ := tell_heading (lineStarts source) 1 said line start
  refine ⟨line, start, told.trans ?_⟩
  simp [closeHeading, Told.rest, free]

theorem tells_template {text : List Char} {title : String}
    (said : spoken .heading (Chunk.headingText text) = some title) :
    TellsAt source offset (.heading 2 text) t
      { title := t.title
        before := t.described :: t.before
        current := { title := title, line := lineAt (lineStarts source) offset } } := by
  intro line start
  obtain ⟨heard, rfl, told⟩ := tell_heading (lineStarts source) 2 said line start
  refine ⟨line, start, told.trans ?_⟩
  unfold closeHeading describe Told.rest Told.described
  by_cases none : t.prose.isEmpty = true
  · simp [List.isEmpty_iff.1 none]
  · simp [none]

/-! ## Paragraphs -/

theorem tell_paragraph (starts : List Nat) {first : List Char} {more : List (List Char)}
    {part : String}
    (said : spoken .prose (Text.joinWith ['\n'] (first :: more)) = some part)
    (line start : Nat) :
    ∃ heard, String.ofList (Text.strip Unicode.isBlank heard) = part
      ∧ ((Chunk.paragraph first more).events offset).foldlM (tell source starts)
          (t.rest line start)
        = { t.rest (lineAt starts offset) offset with paragraph := heard }.flush source := by
  obtain ⟨heard, hears, named⟩ := Option.map_eq_some_iff.1 said
  have isIn : (t.rest (lineAt starts offset) offset).IsIn .prose := ⟨rfl, rfl, rfl⟩
  exact ⟨heard, named, foldlM_wrap rfl (foldlM_tell source starts isIn hears)⟩

theorem tells_prose {first : List Char} {more : List (List Char)} {part : String}
    (said : spoken .prose (Text.joinWith ['\n'] (first :: more)) = some part)
    (filled : part.isEmpty = false) (noArrow : hasArrowAt source offset = false) :
    TellsAt source offset (.paragraph first more) t { t with prose := part :: t.prose } := by
  intro line start
  obtain ⟨heard, rfl, told⟩ := tell_paragraph (lineStarts source) said line start
  refine ⟨lineAt (lineStarts source) offset, offset, told.trans ?_⟩
  unfold flush
  dsimp only
  split
  · rename_i empty
    rw [empty] at filled
    cases filled
  · rw [show (t.rest _ offset).paragraphStart = offset from rfl, noArrow]
    rfl
  · rfl

theorem tells_result {first : List Char} {more : List (List Char)} {result : List Char}
    (said : spoken .prose (Text.joinWith ['\n'] (first :: more))
      = some (String.ofList ('-' :: '>' :: result)))
    (arrow : hasArrowAt source offset = true) (inTemplate : t.before ≠ [])
    (free : t.current.result = none) :
    TellsAt source offset (.paragraph first more) t
      { t with
        current.result := some (String.ofList (Text.strip Unicode.isBlank result)) } := by
  intro line start
  obtain ⟨heard, named, told⟩ := tell_paragraph (lineStarts source) said line start
  refine ⟨lineAt (lineStarts source) offset, offset, told.trans ?_⟩
  have stripped := String.ofList_injective named
  unfold flush
  simp only [stripped]
  rw [show (t.rest _ offset).paragraphStart = offset from rfl, arrow]
  simp [setResult, inHead, Told.rest, inTemplate, free]

/-! ## Lists -/

/-- The text of an item is a command line, unless it is blank. -/
theorem tell_item {s : List Char} {command : String} (said : spoken .item s = some command)
    (filled : command.isEmpty = false) (line start : Nat) :
    ((Markdown.itemBlock offset s).events [] true).foldlM (tell source starts)
        { t.rest line start with depth := 1 }
      = .ok { (t.withCommands [{ text := command, line := lineAt starts offset }]).rest line start
          with depth := 1 } := by
  obtain ⟨heard, hears, rfl⟩ := Option.map_eq_some_iff.1 said
  have isIn : { t.rest line start with depth := 1, item := some ⟨[], lineAt starts offset⟩ }.IsIn
      .item := ⟨rfl, rfl, rfl⟩
  have inner : Markdown.Block.eventsOf [] true [.leaf (.paragraph s) (offset + 2)]
      = Markdown.Inline.events [] s := by
    rw [Markdown.Block.eventsOf, Markdown.Block.eventsOf, List.append_nil]
    rfl
  rw [Markdown.itemBlock, Markdown.Block.events, inner]
  refine (foldlM_wrap rfl (foldlM_tell source starts isIn hears)).trans ?_
  have nonempty : Text.strip Unicode.isBlank heard ≠ [] := by
    intro empty
    rw [empty] at filled
    cases filled
  simp [leave, pushText, closeItem, linked, Told.rest, Told.withCommands, nonempty]

/-- Every item that is not blank is a command line. -/
theorem tell_items (source : List Char) (starts : List Nat) {items : List (List Char)}
    {commands : List String}
    (said : List.Forall₂ (fun s command => spoken .item s = some command ∧ command.isEmpty = false)
      items commands) (t : Told) (offset : Nat) :
    ∃ told : List CommandLine, told.map CommandLine.text = commands
      ∧ ∀ line start, (Markdown.Block.eventsOf [] true (Markdown.itemBlocks offset items)).foldlM
          (tell source starts) { t.rest line start with depth := 1 }
        = .ok { (t.withCommands told).rest line start with depth := 1 } := by
  induction said generalizing t offset with
  | nil =>
      refine ⟨[], rfl, fun line start => ?_⟩
      rw [Told.withCommands_nil]
      rfl
  | @cons s command items commands first others ih =>
      obtain ⟨told, texts, tells⟩ := ih
        (t.withCommands [{ text := command, line := lineAt starts offset }])
        (offset + Text.byteLength (Markdown.itemLine s) + 1)
      refine ⟨{ text := command, line := lineAt starts offset } :: told, ?_, fun line start => ?_⟩
      · rw [List.map_cons, texts]
      · rw [Markdown.itemBlocks, Markdown.Block.eventsOf, List.foldlM_append,
          tell_item first.1 first.2]
        refine (tells line start).trans ?_
        rw [Told.withCommands_append, List.singleton_append]

theorem tells_items {first : List Char} {more : List (List Char)} {commands : List String}
    (said : List.Forall₂ (fun s command => spoken .item s = some command ∧ command.isEmpty = false)
      (first :: more) commands) (source : List Char) (offset : Nat) (t : Told) :
    ∃ told : List CommandLine, told.map CommandLine.text = commands
      ∧ TellsAt source offset (.items first more) t (t.withCommands told) := by
  obtain ⟨told, texts, tells⟩ := tell_items source (lineStarts source) said t offset
  refine ⟨told, texts, fun line start => ⟨line, start, ?_⟩⟩
  rw [Chunk.events, Chunk.block, Markdown.Block.events]
  exact foldlM_wrap rfl (tells line start)

/-! ## Code -/

/-- A fenced body is the code of a template that has none. -/
theorem tells_code {length : Nat} {info : List Char} {content : List (List Char)} {body : List Char}
    (ends : Markdown.unlines content = body ++ ['\n']) (free : t.current.code = []) :
    TellsAt source offset (.code length info content) t
      { t with
        current.code := [{
          language := languageOf
            (some (String.ofList (Markdown.Link.unescape (Text.strip Markdown.isSpace info))))
          content := String.ofList body
          line := lineAt (lineStarts source) offset }] } := by
  intro line start
  refine ⟨line, start, ?_⟩
  have pushed : [Event.text (Markdown.unlines content)].foldlM (tell source (lineStarts source))
      { t.rest line start with
        code := some ⟨languageOf
          (some (String.ofList (Markdown.Link.unescape (Text.strip Markdown.isSpace info)))), [],
          lineAt (lineStarts source) offset⟩ }
      = .ok { t.rest line start with
        code := some ⟨languageOf
          (some (String.ofList (Markdown.Link.unescape (Text.strip Markdown.isSpace info)))),
          Markdown.unlines content, lineAt (lineStarts source) offset⟩ } := rfl
  refine (foldlM_wrap rfl pushed).trans ?_
  rw [ends]
  simp [leave, closeCode, Told.rest, free]

end Extraction

/-! ## Chunk after chunk -/

/-- Chunks stand in a source from a byte on, with a line end between neighbours. -/
def Stand (source : List Char) (offset : Nat) : List Chunk → Prop
  | [] => True
  | c :: rest =>
      (∃ before after, source = before ++ (Markdown.unlines c.lines ++ after)
        ∧ offset = Text.byteLength before)
      ∧ Stand source (offset + Text.byteLength (Markdown.unlines c.lines) + 1) rest

theorem stand_layout (chunks : List Chunk) (before : List Char) :
    Stand (before ++ Markdown.unlines (Markdown.layout chunks)) (Text.byteLength before)
      chunks := by
  induction chunks generalizing before with
  | nil => trivial
  | cons c rest ih =>
      cases rest with
      | nil => exact ⟨⟨before, [], by simp [Markdown.layout], rfl⟩, trivial⟩
      | cons d rest =>
          have newline : Char.utf8Size '\n' = 1 := by decide
          have next := ih (before ++ Markdown.unlines c.lines ++ ['\n'])
          refine ⟨⟨before, '\n' :: Markdown.unlines (Markdown.layout (d :: rest)), ?_, rfl⟩, ?_⟩
          · rw [Markdown.layout_cons_cons, Markdown.unlines_append, Markdown.unlines_cons,
              List.nil_append]
          · rw [Markdown.layout_cons_cons, Markdown.unlines_append, Markdown.unlines_cons]
            simpa [Text.byteLength_append, newline, Nat.add_assoc] using next

/-- What stands before and behind, with the events of both. -/
theorem Stand.append {source : List Char} {offset : Nat} {before behind : List Chunk}
    (stand : Stand source offset (before ++ behind)) :
    Stand source offset before
      ∧ ∃ place, Stand source place behind
        ∧ Markdown.eventsAt offset (before ++ behind)
          = Markdown.eventsAt offset before ++ Markdown.eventsAt place behind := by
  induction before generalizing offset with
  | nil => exact ⟨trivial, offset, stand, rfl⟩
  | cons c rest ih =>
      obtain ⟨here, others⟩ := stand
      obtain ⟨standRest, place, standBehind, events⟩ := ih others
      refine ⟨⟨here, standRest⟩, place, standBehind, ?_⟩
      rw [List.cons_append, Markdown.eventsAt, events, Markdown.eventsAt, List.append_assoc]

/-- **What chunks tell after `t`**, wherever they stand in a source: something that
satisfies `after`. -/
def Tells (chunks : List Chunk) (t : Told) (after : Told → Prop) : Prop :=
  ∀ source offset, Stand source offset chunks → ∀ line start, ∃ t' line' start',
    (Markdown.eventsAt offset chunks).foldlM (Extraction.tell source (lineStarts source))
        (t.rest line start) = .ok (t'.rest line' start') ∧ after t'

namespace Tells

variable {t : Told} {after : Told → Prop}

theorem nil (holds : after t) : Tells [] t after :=
  fun _ _ _ line start => ⟨t, line, start, rfl, holds⟩

/-- Chunks tell what their first tells and what the others tell after it. -/
theorem cons {c : Chunk} {rest : List Chunk} {P : Told → Prop}
    (first : ∀ source offset before behind,
      source = before ++ (Markdown.unlines c.lines ++ behind) → offset = Text.byteLength before →
        ∃ t', TellsAt source offset c t t' ∧ P t')
    (others : ∀ t', P t' → Tells rest t' after) : Tells (c :: rest) t after := by
  rintro source offset ⟨⟨before, behind, is, place⟩, stand⟩ line start
  obtain ⟨t', tells, holds⟩ := first source offset before behind is place
  obtain ⟨line', start', told⟩ := tells line start
  obtain ⟨t'', line'', start'', later, holds'⟩ := others t' holds source _ stand line' start'
  refine ⟨t'', line'', start'', ?_, holds'⟩
  rw [Markdown.eventsAt, List.foldlM_append, told]
  exact later

theorem append {before behind : List Chunk} {P : Told → Prop} (first : Tells before t P)
    (others : ∀ t', P t' → Tells behind t' after) : Tells (before ++ behind) t after := by
  intro source offset stand line start
  obtain ⟨standBefore, place, standBehind, events⟩ := stand.append
  obtain ⟨t', line', start', told, holds⟩ := first source offset standBefore line start
  obtain ⟨t'', line'', start'', later, holds'⟩ :=
    others t' holds source place standBehind line' start'
  refine ⟨t'', line'', start'', ?_, holds'⟩
  rw [events, List.foldlM_append, told]
  exact later

theorem imp {chunks : List Chunk} {P : Told → Prop} (tells : Tells chunks t P)
    (weaker : ∀ t', P t' → after t') : Tells chunks t after := by
  intro source offset stand line start
  obtain ⟨t', line', start', told, holds⟩ := tells source offset stand line start
  exact ⟨t', line', start', told, weaker t' holds⟩

end Tells

end PromptPipeline.Document
