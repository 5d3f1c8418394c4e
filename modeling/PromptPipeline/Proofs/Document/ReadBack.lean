/-
# Proofs.Document.ReadBack -- a printed pipeline is read block by block

If every block of a pipeline can be heard on its own, then its chunks are sound, and told
one after another they give the document that is heard (`ofSource_print`).  What is heard
of a legible pipeline says it.
-/
import PromptPipeline.Proofs.Document.Legible
import PromptPipeline.Proofs.Edit.Run

namespace PromptPipeline.Document

set_option autoImplicit false

open Markdown (Chunk IsLine)

/-! ## Sound chunks -/

theorem isLine_append {s t : List Char} (left : IsLine s) (right : IsLine t) : IsLine (s ++ t) :=
  ⟨fun h => (List.mem_append.1 h).elim left.1 right.1,
    fun h => (List.mem_append.1 h).elim left.2 right.2⟩

theorem isLine_cons {c : Char} {s : List Char} (newline : c ≠ '\n') (carriageReturn : c ≠ '\r')
    (rest : IsLine s) : IsLine (c :: s) :=
  ⟨fun h => (List.mem_cons.1 h).elim (fun same => newline same.symm) rest.1,
    fun h => (List.mem_cons.1 h).elim (fun same => carriageReturn same.symm) rest.2⟩

theorem isLine_replicate {c : Char} (newline : c ≠ '\n') (carriageReturn : c ≠ '\r') (n : Nat) :
    IsLine (List.replicate n c) :=
  ⟨fun h => newline (List.eq_of_mem_replicate h).symm,
    fun h => carriageReturn (List.eq_of_mem_replicate h).symm⟩

/-- Escaping adds nothing to a text but backslashes. -/
theorem isLine_of_subset {s t : List Char} (line : IsLine s)
    (inside : ∀ c ∈ t, c ∈ s ∨ c = '\\') : IsLine t := by
  constructor
  · intro newline
    rcases inside _ newline with there | other
    · exact line.1 there
    · cases other
  · intro carriageReturn
    rcases inside _ carriageReturn with there | other
    · exact line.2 there
    · cases other

theorem mem_escapeHeading {title : String} {c : Char} (member : c ∈ (escapeHeading title).toList) :
    c ∈ title.toList ∨ c = '\\' := by
  have bare := Text.dropTrailing_prefix (p := (· == '#')) title.toList
  unfold escapeHeading at member
  dsimp only at member
  split at member
  · exact .inl member
  · rw [String.toList_ofList, List.mem_append, List.mem_cons] at member
    rcases member with front | rfl | signs
    · exact .inl (bare.subset front)
    · exact .inr rfl
    · exact .inl (List.mem_of_mem_drop signs)

/-- The pieces between line feeds of a text without carriage returns are lines. -/
theorem isLine_of_mem_splitAt {s line : List Char} (noReturn : '\r' ∉ s)
    (member : line ∈ Text.splitAt (· == '\n') s) : IsLine line := by
  constructor
  · intro newline
    have separates := Text.separates_of_mem_splitAt member _ newline
    cases separates
  · intro carriageReturn
    have within := Text.infix_joinWith ['\n'] member
    rw [Text.joinWith_splitAt] at within
    exact noReturn (within.subset carriageReturn)

theorem sound_title {level : Nat} {title said : String} (positive : 1 ≤ level) (small : level ≤ 6)
    (heard : HeardTitle title said) : (titleChunk level title).Sound where
  readable := ⟨positive, small⟩
  isLine := by
    intro s member
    obtain rfl := List.mem_singleton.1 member
    refine isLine_append (isLine_replicate (by decide) (by decide) level) ?_
    exact isLine_cons (by decide) (by decide)
      (isLine_of_subset heard.isLine fun c => mem_escapeHeading)

theorem sound_part {part said : String} (heard : HeardPart part said) :
    (partChunk part).Sound where
  readable := by
    refine ⟨?_, ?_⟩
    · rw [cons_writtenLines]
      intro s member
      obtain ⟨line, -, rfl⟩ := List.mem_map.1 member
      exact plain_escapeLine (heard.filled _ member)
    · rw [cons_writtenLines]
      exact heard.noDefinition
  isLine := by
    rw [lines_partChunk]
    intro s member
    obtain ⟨line, inside, rfl⟩ := List.mem_map.1 member
    exact isLine_of_subset (isLine_of_mem_splitAt heard.noReturn inside) fun c => mem_escapeLine

theorem sound_items {first : String} {more : List String}
    (letters : ∀ line ∈ first :: more, Grammar.StartsWithLetter line)
    (isLine : ∀ line ∈ first :: more, IsLine line.toList) :
    (Chunk.items first.toList (more.map String.toList)).Sound where
  readable := by
    show ∀ s ∈ first.toList :: more.map String.toList, _
    rw [← List.map_cons]
    intro s member
    obtain ⟨line, inside, rfl⟩ := List.mem_map.1 member
    obtain ⟨letter, rest, is, alpha⟩ := letters line inside
    rw [is]
    exact itemText_of_letter alpha
  isLine := by
    show ∀ s ∈ (first.toList :: more.map String.toList).map Markdown.itemLine, _
    rw [← List.map_cons, List.map_map]
    intro s member
    obtain ⟨line, inside, rfl⟩ := List.mem_map.1 member
    exact isLine_cons (by decide) (by decide)
      (isLine_cons (by decide) (by decide) (isLine line inside))

theorem sound_body {g : Grammar} {p : Pipeline} {t : Template} {s : Section}
    (heard : HeardTemplate g p t s) : (bodyChunk t).Sound where
  readable := ⟨Nat.le_max_right _ _, heard.noTick, fun _ member _ => closesFence_fence member⟩
  isLine := by
    have ticks := isLine_replicate (c := '\x60') (by decide) (by decide)
      (max (longestRun 0 t.content.toList + 1) 3)
    intro s member
    rcases List.mem_cons.1 member with rfl | member
    · exact isLine_append ticks heard.languageIsLine
    · rcases List.mem_append.1 member with inside | last
      · exact isLine_of_mem_splitAt heard.noReturn inside
      · exact List.mem_singleton.1 last ▸ ticks

theorem toList_resultLine (t : Template) :
    (resultLine t).toList = '-' :: '>' :: ' ' :: '\x7b' :: (t.result.toList ++ ['\x7d']) := by
  simp [resultLine, braced]

theorem sound_result {g : Grammar} {p : Pipeline} {t : Template} {s : Section}
    (heard : HeardTemplate g p t s) : (resultChunk t).Sound where
  readable := by
    have noDefinition : Markdown.Link.definition? (resultLine t).toList = none := by
      rw [toList_resultLine]
      rfl
    refine ⟨fun s member => ?_, noDefinition⟩
    rw [List.mem_singleton.1 member, toList_resultLine]
    exact plain_arrow _
  isLine := by
    intro s member
    rw [List.mem_singleton.1 member, toList_resultLine]
    have closed : IsLine (t.result.toList ++ ['\x7d']) :=
      isLine_append heard.resultIsLine
        (isLine_cons (by decide) (by decide) ⟨List.not_mem_nil, List.not_mem_nil⟩)
    exact isLine_cons (by decide) (by decide) (isLine_cons (by decide) (by decide)
      (isLine_cons (by decide) (by decide) (isLine_cons (by decide) (by decide) closed)))

/-! ## What the chunks tell -/

theorem isEmpty_of_ne {s : String} (notEmpty : s ≠ "") : s.isEmpty = false :=
  Bool.eq_false_iff.2 fun empty => notEmpty (String.isEmpty_iff.1 empty)

/-- A paragraph that starts with another character has no arrow in the source. -/
theorem hasArrowAt_plain {before behind : List Char} {c : Char}
    (solid : Unicode.isBlank c = false) (noHyphen : c ≠ '-') :
    hasArrowAt (before ++ c :: behind) (Text.byteLength before) = false := by
  have stays : Text.dropLeading Unicode.isBlank (c :: behind) = c :: behind :=
    Text.dropLeading_of_head fun d first => Option.some.inj first ▸ solid
  rw [hasArrowAt_append, stays]
  simp [List.isPrefixOf, noHyphen.symm]

theorem hasArrowAt_arrow (before behind : List Char) :
    hasArrowAt (before ++ '-' :: '>' :: behind) (Text.byteLength before) = true := by
  rw [hasArrowAt_append]
  rfl

/-- Nothing that is escaped starts with an arrow. -/
theorem hasArrowAt_escapeLine {line : List Char} (filled : escapeLine line ≠ [])
    (before behind : List Char) :
    hasArrowAt (before ++ (escapeLine line ++ behind)) (Text.byteLength before) = false := by
  obtain ⟨c, rest, first, solid, noMark, -⟩ := escapeLine_first filled
  have noHyphen : c ≠ '-' := fun hyphen => noMark (hyphen ▸ by decide)
  rw [first, List.cons_append]
  exact hasArrowAt_plain solid noHyphen

theorem tells_part {part said : String} (heard : HeardPart part said)
    {source before behind : List Char} {offset : Nat}
    (is : source = before ++ (Markdown.unlines (partChunk part).lines ++ behind))
    (place : offset = Text.byteLength before) (t : Told) :
    TellsAt source offset (partChunk part) t { t with prose := said :: t.prose } := by
  have spoken := heard.spoken
  rw [← cons_writtenLines] at spoken
  refine Extraction.tells_prose spoken ?_ ?_
  · exact isEmpty_of_ne heard.notEmpty
  · obtain ⟨line, lines, pieces⟩ :=
      List.exists_cons_of_ne_nil (Text.splitAt_ne_nil (· == '\n') part.toList)
    have written : writtenLines part = escapeLine line :: lines.map escapeLine := by
      rw [writtenLines, pieces, List.map_cons]
    have filled := heard.filled (escapeLine line) (written ▸ List.mem_cons_self)
    rw [is, place, lines_partChunk, written, Markdown.unlines_cons, List.append_assoc]
    exact hasArrowAt_escapeLine filled before _

theorem tells_parts {parts said : List String} (heard : List.Forall₂ HeardPart parts said)
    (t : Told) :
    Tells (parts.map partChunk) t (· = { t with prose := said.reverse ++ t.prose }) := by
  induction heard generalizing t with
  | nil => exact Tells.nil rfl
  | @cons part here parts said first _ ih =>
      refine Tells.cons (P := (· = { t with prose := here :: t.prose })) ?_ ?_
      · intro source offset before behind is place
        exact ⟨_, tells_part first is place t, rfl⟩
      · rintro _ rfl
        have rest := ih { t with prose := here :: t.prose }
        rw [List.reverse_cons, List.append_assoc, List.singleton_append]
        exact rest

/-- What the items of commands say. -/
theorem spoken_of_heard {g : Grammar} {commands : List Command} {lines said : List String}
    (written : List.Forall₂ (fun c line => g.write c = .ok line) commands lines)
    (heard : List.Forall₂ (HeardCommand g) commands said) :
    List.Forall₂ (fun s command => spoken .item s = some command ∧ command.isEmpty = false)
      (lines.map String.toList) said := by
  induction written generalizing said with
  | nil =>
      cases heard
      exact .nil
  | cons writes _ ih =>
      cases heard with
      | cons first rest =>
          obtain ⟨line, wrote, -, spoken, notEmpty⟩ := first
          obtain rfl := Except.ok.inj (writes.symm.trans wrote)
          exact .cons ⟨spoken, isEmpty_of_ne notEmpty⟩ (ih rest)

theorem tells_list {g : Grammar} {commands : List Command} {lines said : List String}
    (written : List.Forall₂ (fun c line => g.write c = .ok line) commands lines)
    (heard : List.Forall₂ (HeardCommand g) commands said) (t : Told) :
    Tells (listGroups lines).flatten t fun t' => ∃ told : List CommandLine,
      told.map CommandLine.text = said ∧ t' = t.withCommands told := by
  have spoke := spoken_of_heard written heard
  cases lines with
  | nil =>
      cases spoke
      exact Tells.nil ⟨[], rfl, t.withCommands_nil.symm⟩
  | cons first more =>
      rw [List.map_cons] at spoke
      refine Tells.cons (fun source offset before behind is place => ?_)
        (fun t' told => Tells.nil told)
      obtain ⟨told, texts, tells⟩ := Extraction.tells_items spoke source offset t
      exact ⟨_, tells, told, texts, rfl⟩

/-- Prose that names a result starts with an arrow. -/
theorem arrow_of_namedResult {said raw : String} (named : namedResult said = some raw) :
    ∃ rest, said = String.ofList ('-' :: '>' :: rest)
      ∧ String.ofList (Text.strip Unicode.isBlank rest) = raw := by
  unfold namedResult at named
  split at named
  · rename_i rest arrow
    refine ⟨rest, ?_, Option.some.inj named⟩
    rw [← arrow, String.ofList_toList]
  · cases named

theorem tells_result {g : Grammar} {p : Pipeline} {u : Template} {s : Section}
    (heard : HeardTemplate g p u s) {t : Told} (inTemplate : t.before ≠ [])
    (free : t.current.result = none) :
    Tells [resultChunk u] t (· = { t with current.result := s.result }) := by
  obtain ⟨raw, named, result⟩ := heard.result
  obtain ⟨said, spoken, named⟩ := Option.bind_eq_some_iff.1 named
  obtain ⟨rest, arrow, rfl⟩ := arrow_of_namedResult named
  rw [result]
  refine Tells.cons (fun source offset before behind is place => ?_) (fun t' told => Tells.nil told)
  rw [arrow] at spoken
  refine ⟨_, Extraction.tells_result spoken ?_ inTemplate free, rfl⟩
  have line : (resultChunk u).lines = [(resultLine u).toList] := rfl
  rw [is, place, line, toList_resultLine, Markdown.unlines_cons]
  exact hasArrowAt_arrow before _

/-! ## Sections -/

/-- The groups of a section. -/
def sectionGroups (t : Template) (parts lines : List String) : List (List Chunk) :=
  [[titleChunk 2 t.title]] ++ partGroups parts ++ listGroups lines
    ++ [[bodyChunk t], [resultChunk t]]

theorem flatten_partGroups (parts : List String) :
    (partGroups parts).flatten = parts.map partChunk := by
  cases parts with
  | nil => rfl
  | cons part parts => simp [partGroups]

theorem described_of_prose {t : Told} {said : List String} (prose : t.prose = said.reverse)
    (free : t.current.description = none) :
    t.described = { t.current with description := descriptionOf said } := by
  unfold Told.described descriptionOf
  rw [prose, List.isEmpty_reverse, List.reverse_reverse]
  split
  · rw [← free]
  · rfl

/-- **The chunks of a template start the section that is heard.** -/
theorem tells_section {g : Grammar} {p : Pipeline} {u : Template} {s : Section}
    (heard : HeardTemplate g p u s) {lines : List String}
    (written : List.Forall₂ (fun c line => g.write c = .ok line) (templateCommands g ⟨u, p⟩) lines)
    (t : Told) :
    Tells (sectionGroups u (descriptionParts u.description) lines).flatten t fun t' =>
      t'.title = t.title ∧ t'.before = t.described :: t.before
        ∧ HeardTemplate g p u t'.described := by
  obtain ⟨said, parted, described⟩ := heard.description
  have commands := List.forall₂_map_right_iff.2 heard.commands
  have flat : (sectionGroups u (descriptionParts u.description) lines).flatten
      = titleChunk 2 u.title :: ((descriptionParts u.description).map partChunk
        ++ ((listGroups lines).flatten ++ (bodyChunk u :: [resultChunk u]))) := by
    simp [sectionGroups, flatten_partGroups]
  rw [flat]
  -- The heading starts the section.
  refine Tells.cons (P := fun t' => ∃ line, t' = {
      title := t.title
      before := t.described :: t.before
      current := { title := s.title, line := line } })
    (fun source offset _ _ _ _ => ⟨_, Extraction.tells_template heard.title.spoken, _, rfl⟩) ?_
  rintro _ ⟨line, rfl⟩
  -- The description and the commands follow.
  refine Tells.append (tells_parts parted _) ?_
  rintro _ rfl
  refine Tells.append (tells_list written commands _) ?_
  rintro _ ⟨told, texts, rfl⟩
  -- The body and the result end it.
  refine Tells.cons (P := fun t' => ∃ place, t' = {
      title := t.title
      before := t.described :: t.before
      current := {
        title := s.title
        line := line
        commands := told
        code := [⟨heardLanguage u.language, u.content, place⟩] }
      prose := said.reverse }) ?_ ?_
  · intro source offset before behind is place
    have ends : Markdown.unlines (Text.splitAt (· == '\n') u.content.toList)
        = u.content.toList ++ ['\n'] := by
      rw [unlines_eq_joinWith (Text.splitAt_ne_nil _ _), Text.joinWith_splitAt]
    refine ⟨_, Extraction.tells_code ends rfl, lineAt (lineStarts source) offset, ?_⟩
    simp only [Told.withCommands, heardLanguage, String.ofList_toList, List.nil_append,
      List.append_nil]
  · rintro _ ⟨place, rfl⟩
    refine (tells_result heard (List.cons_ne_nil _ _) rfl).imp ?_
    rintro _ rfl
    refine ⟨rfl, rfl, ?_⟩
    rw [described_of_prose rfl rfl]
    exact { heard with
      description := ⟨said, parted, rfl⟩
      commands := List.forall₂_map_right_iff.1 (texts ▸ commands)
      code := ⟨place, rfl⟩ }

/-! ## Blocks and their chunks -/

/-- Blocks that are written from groups of chunks which are read as they were written. -/
structure Laid (blocks : List String) (groups : List (List Chunk)) : Prop where
  blocks : blocks = groups.map block
  filled : ∀ group ∈ groups, group ≠ []
  sound : ∀ c ∈ groups.flatten, c.Sound
  apart : Markdown.Apart groups.flatten

/-- Chunks without a list are apart. -/
theorem apart_of_noItems {chunks : List Chunk} (noItems : ∀ c ∈ chunks, c.isItems = false) :
    Markdown.Apart chunks := by
  induction chunks with
  | nil => exact .nil
  | cons c rest ih =>
      obtain ⟨here, others⟩ := List.forall_mem_cons.1 noItems
      cases rest with
      | nil => exact .singleton c
      | cons d rest =>
          refine List.isChain_cons_cons.2 ⟨fun both => ?_, ih others⟩
          rw [here] at both
          exact absurd both.1 Bool.false_ne_true

/-- Blocks may follow blocks unless a list would follow a list. -/
theorem Laid.append {before behind : List String} {groups groups' : List (List Chunk)}
    (first : Laid before groups) (second : Laid behind groups')
    (seam : (∀ c ∈ groups.flatten, c.isItems = false)
      ∨ ∀ c, groups'.flatten.head? = some c → c.isItems = false) :
    Laid (before ++ behind) (groups ++ groups') where
  blocks := by rw [first.blocks, second.blocks, List.map_append]
  filled := fun group member => (List.mem_append.1 member).elim (first.filled group)
    (second.filled group)
  sound := fun c member => by
    rw [List.flatten_append] at member
    exact (List.mem_append.1 member).elim (first.sound c) (second.sound c)
  apart := by
    rw [List.flatten_append]
    refine List.isChain_append.2 ⟨first.apart, second.apart, fun c hc d hd both => ?_⟩
    rcases seam with noItems | noItems
    · rw [noItems c (List.mem_of_getLast? hc)] at both
      exact absurd both.1 Bool.false_ne_true
    · rw [noItems d hd] at both
      exact absurd both.2 Bool.false_ne_true

theorem laid_nil : Laid [] [] where
  blocks := rfl
  filled := fun _ member => nomatch member
  sound := fun _ member => nomatch member
  apart := .nil

/-- One chunk makes a block. -/
theorem laid_single {c : Chunk} (sound : c.Sound) : Laid [block [c]] [[c]] where
  blocks := rfl
  filled := fun _ member => List.mem_singleton.1 member ▸ List.cons_ne_nil _ _
  sound := fun _ member => List.mem_singleton.1 member ▸ sound
  apart := .singleton c

theorem noItems_parts (parts : List String) :
    ∀ c ∈ (partGroups parts).flatten, c.isItems = false := by
  rw [flatten_partGroups]
  intro c member
  obtain ⟨part, -, rfl⟩ := List.mem_map.1 member
  rfl

theorem exists_heard {parts said : List String} (heard : List.Forall₂ HeardPart parts said)
    {part : String} (member : part ∈ parts) : ∃ here, HeardPart part here := by
  induction heard with
  | nil => cases member
  | cons first _ ih =>
      rcases List.mem_cons.1 member with rfl | later
      · exact ⟨_, first⟩
      · exact ih later

theorem laid_parts {parts said : List String} (heard : List.Forall₂ HeardPart parts said) :
    Laid ((partGroups parts).map block) (partGroups parts) where
  blocks := rfl
  filled := by
    cases parts with
    | nil => exact fun _ member => nomatch member
    | cons part parts => exact fun _ member => List.mem_singleton.1 member ▸ List.cons_ne_nil _ _
  sound := by
    rw [flatten_partGroups]
    intro c member
    obtain ⟨part, inside, rfl⟩ := List.mem_map.1 member
    obtain ⟨_, here⟩ := exists_heard heard inside
    exact sound_part here
  apart := by
    exact apart_of_noItems (noItems_parts parts)

/-- The block of a description is laid out from its parts. -/
theorem laid_description {description heard : Option String}
    (is : HeardDescription description heard) :
    Laid (descriptionBlock description) (partGroups (descriptionParts description)) := by
  obtain ⟨said, parted, -⟩ := is
  have blocks : descriptionBlock description
      = (partGroups (descriptionParts description)).map block := by
    rw [← block_parts, descriptionOf_parts]
    · intro part member
      obtain ⟨_, here⟩ := exists_heard parted member
      exact here.noReturn
    · intro part member
      obtain ⟨_, here⟩ := exists_heard parted member
      exact here.filled
  rw [blocks]
  exact laid_parts parted

section

variable {g : Grammar} {p : Pipeline}

theorem laid_list (letters : ∀ c line, g.write c = .ok line → Grammar.StartsWithLetter line)
    {commands : List Command} {lines said : List String}
    (written : List.Forall₂ (fun c line => g.write c = .ok line) commands lines)
    (heard : List.Forall₂ (HeardCommand g) commands said) :
    Laid (listBlock lines) (listGroups lines) := by
  have each : ∀ line ∈ lines, Grammar.StartsWithLetter line ∧ IsLine line.toList := by
    induction written generalizing said with
    | nil => exact fun _ member => nomatch member
    | cons writes others ih =>
        cases heard with
        | cons first rest =>
            obtain ⟨line, wrote, isLine, -⟩ := first
            obtain rfl := Except.ok.inj (writes.symm.trans wrote)
            exact List.forall_mem_cons.2 ⟨⟨letters _ _ writes, isLine⟩, ih rest⟩
  rw [block_list]
  cases lines with
  | nil => exact laid_nil
  | cons first more =>
      exact laid_single (sound_items (fun line member => (each line member).1)
        (fun line member => (each line member).2))

/-- A heading, the parts of a description and a list follow each other. -/
theorem Laid.start {title list : List String} {titles lists : List (List Chunk)}
    {description heard : Option String} (heading : Laid title titles)
    (noItems : ∀ c ∈ titles.flatten, c.isItems = false) (is : HeardDescription description heard)
    (items : Laid list lists) :
    Laid (title ++ descriptionBlock description ++ list)
      (titles ++ partGroups (descriptionParts description) ++ lists) := by
  refine (heading.append (laid_description is) (.inl noItems)).append items (.inl ?_)
  intro c member
  rw [List.flatten_append] at member
  rcases List.mem_append.1 member with inside | inside
  · exact noItems c inside
  · exact noItems_parts _ c inside

/-- **The blocks of a template are laid out from the section that is heard.** -/
theorem laid_template (letters : ∀ c line, g.write c = .ok line → Grammar.StartsWithLetter line)
    {u : Template} {s : Section} (heard : HeardTemplate g p u s) {blocks : List String}
    (written : templateBlocks g p u = .ok blocks) :
    ∃ groups, Laid blocks groups
      ∧ (∀ c, groups.flatten.head? = some c → c.isItems = false)
      ∧ ∀ t, Tells groups.flatten t fun t' =>
          t'.title = t.title ∧ t'.before = t.described :: t.before
            ∧ HeardTemplate g p u t'.described := by
  obtain ⟨lines, mapped, same⟩ := Except.bind_ok_iff.1 written
  cases same
  have each := Except.mapM_ok mapped
  refine ⟨sectionGroups u (descriptionParts u.description) lines, ?_, ?_,
    tells_section heard each⟩
  · have title : "## " ++ escapeHeading u.title = block [titleChunk 2 u.title] :=
      (block_title 2 u.title).symm
    rw [title, ← block_body, ← resultLine, ← block_result]
    have heading : (titleChunk 2 u.title).Sound :=
      sound_title (Nat.le_succ 1) (by decide) heard.title
    have list := laid_list letters each (List.forall₂_map_right_iff.2 heard.commands)
    have start := (laid_single heading).start (fun c member => by
      obtain rfl := List.mem_singleton.1 member
      rfl) heard.description list
    refine start.append ((laid_single (sound_body heard)).append
      (laid_single (sound_result heard)) (.inr ?_)) (.inr ?_)
    · rintro c first
      cases first
      rfl
    · rintro c first
      cases first
      rfl
  · rintro c first
    cases first
    rfl

/-- The blocks of templates are laid out from the sections that are heard. -/
theorem laid_templates (letters : ∀ c line, g.write c = .ok line → Grammar.StartsWithLetter line)
    {templates : List Template} {heard : List Section}
    (are : List.Forall₂ (HeardTemplate g p) templates heard) {blocks : List (List String)}
    (written : List.Forall₂ (fun u blocks => templateBlocks g p u = .ok blocks) templates blocks) :
    ∃ groups, Laid blocks.flatten groups
      ∧ (∀ c, groups.flatten.head? = some c → c.isItems = false)
      ∧ ∀ t, Tells groups.flatten t fun t' => t'.title = t.title
          ∧ ∃ sections, List.Forall₂ (HeardTemplate g p) templates sections
            ∧ t'.before.reverse ++ [t'.described]
              = t.before.reverse ++ t.described :: sections := by
  induction written generalizing heard with
  | nil => exact ⟨[], laid_nil, (fun _ h => nomatch h), fun t => Tells.nil ⟨rfl, [], .nil, rfl⟩⟩
  | cons first others ih =>
      cases are with
      | cons here rest =>
          obtain ⟨groups, laid, noItems, tells⟩ := laid_template letters here first
          obtain ⟨groups', laid', noItems', tells'⟩ := ih rest
          refine ⟨groups ++ groups', laid.append laid' (.inr noItems'), ?_, fun t => ?_⟩
          · intro c head
            rw [List.flatten_append, List.head?_append] at head
            rcases Option.or_eq_some_iff.1 head with head | ⟨-, head⟩
            · exact noItems c head
            · exact noItems' c head
          · rw [List.flatten_append]
            refine (tells t).append ?_
            rintro t' ⟨title, before, said⟩
            refine (tells' t').imp ?_
            rintro t'' ⟨title', sections, sectionsHeard, whole⟩
            refine ⟨title'.trans title, t'.described :: sections, .cons said sectionsHeard, ?_⟩
            rw [whole, before]
            simp

/-! ## The head -/

/-- The groups of a head. -/
def headGroups (p : Pipeline) (lines : List String) : List (List Chunk) :=
  (if p.title.isEmpty then [] else [[titleChunk 1 p.title]])
    ++ partGroups (descriptionParts p.description) ++ listGroups lines

/-- The chunks of a head tell what is heard of it. -/
theorem tells_head {d : Document} (heard : HeardAs g p d) {lines : List String}
    (written : List.Forall₂ (fun c line => g.write c = .ok line) (headCommands g p) lines) :
    Tells (headGroups p lines).flatten {} fun t =>
      t.title = d.title ∧ t.before = [] ∧ HeardHead g p t.described := by
  obtain ⟨said, parted, described⟩ := heard.head.description
  have commands := List.forall₂_map_right_iff.2 heard.head.commands
  have rest : Tells ((descriptionParts p.description).map partChunk ++ (listGroups lines).flatten)
      { title := d.title } fun t =>
        t.title = d.title ∧ t.before = [] ∧ HeardHead g p t.described := by
    refine Tells.append (tells_parts parted _) ?_
    rintro _ rfl
    refine (tells_list written commands _).imp ?_
    rintro _ ⟨told, texts, rfl⟩
    rw [described_of_prose (List.append_nil _) rfl]
    exact ⟨rfl, rfl, {
      description := ⟨said, parted, rfl⟩
      commands := List.forall₂_map_right_iff.1 (texts ▸ commands)
      untitled := rfl
      noCode := rfl
      noResult := rfl }⟩
  by_cases untitled : p.title = ""
  · have flat : (headGroups p lines).flatten
        = (descriptionParts p.description).map partChunk ++ (listGroups lines).flatten := by
      simp [headGroups, untitled, flatten_partGroups]
    rw [heard.untitled untitled] at rest ⊢
    rw [flat]
    exact rest
  · have flat : (headGroups p lines).flatten = titleChunk 1 p.title
        :: ((descriptionParts p.description).map partChunk ++ (listGroups lines).flatten) := by
      simp [headGroups, untitled, flatten_partGroups]
    obtain ⟨title, heading, named⟩ := heard.titled untitled
    rw [named] at rest ⊢
    rw [flat]
    refine Tells.cons (P := (· = { title := some title }))
      (fun source offset _ _ _ _ => ⟨_, Extraction.tells_title heading.spoken rfl, rfl⟩) ?_
    rintro _ rfl
    exact rest

/-- The blocks of a head are laid out from its groups. -/
theorem laid_head (letters : ∀ c line, g.write c = .ok line → Grammar.StartsWithLetter line)
    {d : Document} (heard : HeardAs g p d) {lines : List String}
    (written : List.Forall₂ (fun c line => g.write c = .ok line) (headCommands g p) lines) :
    Laid ((if p.title.isEmpty then [] else ["# " ++ escapeHeading p.title])
      ++ descriptionBlock p.description ++ listBlock lines) (headGroups p lines) := by
  have list := laid_list letters written (List.forall₂_map_right_iff.2 heard.head.commands)
  unfold headGroups
  split
  · exact laid_nil.start (fun _ member => nomatch member) heard.head.description list
  · rename_i titled
    obtain ⟨title, heading, -⟩ :=
      heard.titled fun untitled => titled (String.isEmpty_iff.2 untitled)
    have block : "# " ++ escapeHeading p.title = block [titleChunk 1 p.title] :=
      (block_title 1 p.title).symm
    rw [block]
    refine (laid_single (sound_title (Nat.le_refl 1) (by decide) heading)).start ?_
      heard.head.description list
    intro c member
    obtain rfl := List.mem_singleton.1 member
    rfl

/-! ## Whole documents -/

/-- **A printed pipeline is read as what its blocks say.** -/
theorem ofSource_print (letters : ∀ c line, g.write c = .ok line → Grammar.StartsWithLetter line)
    {d : Document} (heard : HeardAs g p d) {text : String} (printed : print g p = .ok text) :
    ∃ d', ofSource text = .ok d' ∧ HeardAs g p d' := by
  obtain ⟨lines, mapped, rest⟩ := Except.bind_ok_iff.1 printed
  obtain ⟨templates, mappedTemplates, same⟩ := Except.bind_ok_iff.1 rest
  cases same
  have each := Except.mapM_ok mapped
  obtain ⟨groups, laid, noItems, tells⟩ :=
    laid_templates letters heard.templates (Except.mapM_ok mappedTemplates)
  have whole := (laid_head letters heard each).append laid (.inr noItems)
  rw [whole.blocks]
  refine ofSource_blocks whole.filled whole.sound whole.apart ?_
  rw [List.flatten_append]
  refine Tells.append (tells_head heard each) ?_
  rintro t ⟨title, before, head⟩
  refine (tells t).imp ?_
  rintro t' ⟨title', sections, are, behind⟩
  rw [before] at behind
  refine ⟨⟨t'.title, t.described, sections⟩, ⟨rfl, behind⟩, ?_⟩
  exact {
    untitled := fun untitled => by rw [title', title, heard.untitled untitled]
    titled := fun titled => by rw [title', title]; exact heard.titled titled
    head := head
    templates := are }

/-! ## Legible pipelines -/

/-- A section that says the head of a pipeline. -/
structure SaysHead (g : Grammar) (p : Pipeline) (s : Section) : Prop where
  description : s.description = p.description
  code : s.code = []
  commands : List.Forall₂ (fun (line : CommandLine) c => g.parse line.text .head = .ok c)
    s.commands (headCommands g p)

/-- A section that says a template. -/
structure Says (g : Grammar) (p : Pipeline) (s : Section) (t : Template) : Prop where
  title : s.title = t.title
  description : s.description = t.description
  code : ∃ line, s.code = [⟨t.language, t.content, line⟩]
  commands : List.Forall₂ (fun (line : CommandLine) c => g.parse line.text .template = .ok c)
    s.commands (templateCommands g ⟨t, p⟩)
  result : ∃ raw, s.result = some raw ∧ Name.validate raw = .ok t.result

/-- A document that says a pipeline. -/
structure SaysAll (g : Grammar) (p : Pipeline) (d : Document) : Prop where
  title : d.title.getD "" = p.title
  head : SaysHead g p d.head
  templates : List.Forall₂ (Says g p) d.templates p.templates

theorem exists_forall₂ {α β : Type} {R : α → β → Prop} {l : List α} (each : ∀ a ∈ l, ∃ b, R a b) :
    ∃ l', List.Forall₂ R l l' := by
  induction l with
  | nil => exact ⟨[], .nil⟩
  | cons a l ih =>
      obtain ⟨⟨b, first⟩, others⟩ := List.forall_mem_cons.1 each
      obtain ⟨l', rest⟩ := ih others
      exact ⟨b :: l', .cons first rest⟩

theorem LegibleDescription.heard {description : Option String}
    (legible : LegibleDescription description) : HeardDescription description description :=
  ⟨_, List.forall₂_same.2 legible, descriptionOf_parts description⟩

theorem LegibleCommand.heard {place : Place} {c : Command} (legible : LegibleCommand g place c) :
    ∃ said, HeardCommand g c said ∧ g.parse said place = .ok c := by
  obtain ⟨line, member, isLine, told⟩ := legible
  obtain ⟨said, spoken, parsed⟩ := Option.map_eq_some_iff.1 told
  have written : g.write c = .ok line := by
    cases wrote : g.write c with
    | error e =>
        rw [wrote] at member
        cases member
    | ok other =>
        rw [wrote] at member
        cases member
        rfl
  refine ⟨said, ⟨line, written, isLine, spoken, ?_⟩, parsed⟩
  rintro rfl
  cases parsed

/-- Legible commands are read from what is heard of them. -/
theorem heard_of_legible {place : Place} {commands : List Command}
    (legible : ∀ c ∈ commands, LegibleCommand g place c) :
    ∃ lines : List CommandLine,
      List.Forall₂ (fun c (line : CommandLine) => HeardCommand g c line.text) commands lines
        ∧ List.Forall₂ (fun (line : CommandLine) c => g.parse line.text place = .ok c) lines
          commands := by
  have each : ∀ c ∈ commands, ∃ line : CommandLine,
      HeardCommand g c line.text ∧ g.parse line.text place = .ok c := by
    intro c member
    obtain ⟨said, heard, parsed⟩ := (legible c member).heard
    exact ⟨⟨said, 0⟩, heard, parsed⟩
  obtain ⟨lines, all⟩ := exists_forall₂ each
  exact ⟨lines, all.imp fun _ _ both => both.1, (all.imp fun _ _ both => both.2).flip⟩

theorem LegibleTemplate.heard {t : Template} (legible : LegibleTemplate g p t) :
    ∃ s, HeardTemplate g p t s ∧ Says g p s t := by
  obtain ⟨lines, commands, parses⟩ := heard_of_legible legible.commands
  obtain ⟨raw, named, valid⟩ := Option.map_eq_some_iff.1 legible.result
  let s : Section := {
    title := t.title
    description := t.description
    commands := lines
    code := [⟨t.language, t.content, 0⟩]
    result := some raw }
  have heard : HeardTemplate g p t s := {
    title := legible.title
    description := legible.description.heard
    commands := commands
    noReturn := legible.noReturn
    languageIsLine := legible.languageIsLine
    noTick := legible.noTick
    code := ⟨0, by rw [legible.language]⟩
    resultIsLine := legible.resultIsLine
    result := ⟨raw, named, rfl⟩ }
  exact ⟨s, heard, rfl, rfl, ⟨0, rfl⟩, parses, raw, rfl, valid⟩

/-- **What is heard of a legible pipeline says it.** -/
theorem Legible.heard (legible : Legible g p) : ∃ d, HeardAs g p d ∧ SaysAll g p d := by
  obtain ⟨lines, commands, parses⟩ := heard_of_legible legible.commands
  obtain ⟨sections, all⟩ :=
    exists_forall₂ fun t member => (legible.templates t member).heard
  let d : Document := {
    title := if p.title = "" then none else some p.title
    head := { description := p.description, commands := lines }
    templates := sections }
  have title : d.title.getD "" = p.title := by
    by_cases untitled : p.title = ""
    · simp [d, untitled]
    · simp [d, untitled]
  have heard : HeardAs g p d := {
    untitled := fun untitled => if_pos untitled
    titled := fun titled => ⟨p.title, legible.title titled, if_neg titled⟩
    head := ⟨legible.description.heard, commands, rfl, rfl, rfl⟩
    templates := all.imp fun _ _ both => both.1 }
  exact ⟨d, heard, title, ⟨rfl, rfl, parses⟩, (all.imp fun _ _ both => both.2).flip⟩

end

end PromptPipeline.Document
