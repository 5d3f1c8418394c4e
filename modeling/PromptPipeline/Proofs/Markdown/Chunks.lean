/-
# Proofs.Markdown.Chunks -- documents that are written block by block

A document that is laid out from headings, paragraphs, lists and fenced bodies with a
blank line between neighbours is read as these blocks (`ofSource_layout`), as long as
every chunk is readable on its own and no list follows a list.
-/
import Mathlib.Data.List.Chain
import PromptPipeline.Proofs.Markdown.Items

namespace PromptPipeline.Markdown

set_option autoImplicit false

/-! ## Chunks -/

/-- A block as it is written.  A list has the texts of its items. -/
inductive Chunk
  | heading (level : Nat) (text : List Char)
  | paragraph (first : List Char) (more : List (List Char))
  | items (first : List Char) (more : List (List Char))
  | code (length : Nat) (info : List Char) (content : List (List Char))

namespace Chunk

/-- The lines of a chunk. -/
def lines : Chunk → List (List Char)
  | heading level text => [List.replicate level '#' ++ ' ' :: text]
  | paragraph first more => first :: more
  | items first more => (first :: more).map itemLine
  | code length info content =>
      (List.replicate length '\x60' ++ info) :: (content ++ [List.replicate length '\x60'])

/-- The text of a heading without white space and number signs around it. -/
def headingText (s : List Char) : List Char :=
  let text := Text.dropTrailing (· = ' ') (s.dropWhile isSpace)
  let bare := Text.dropTrailing (· = '#') text
  if bare.isEmpty then []
  else if bare.getLast? = some ' ' then Text.dropTrailing (· = ' ') bare
  else text

/-- The block of a chunk that starts at `offset`. -/
def block (offset : Nat) : Chunk → Block
  | heading level text => .leaf (.heading level (headingText text)) offset
  | paragraph first more => .leaf (.paragraph (Text.joinWith ['\n'] (first :: more))) offset
  | items first more => .container (.list true) offset (itemBlocks offset (first :: more))
  | code _ info content =>
      .leaf (.code (some (String.ofList (Link.unescape (Text.strip isSpace info))))
        (unlines content)) offset

/-- Whether a chunk is a list. -/
def isItems : Chunk → Bool
  | items .. => true
  | _ => false

/-- A chunk that is read as its block where nothing is open. -/
def Readable : Chunk → Prop
  | heading level _ => 1 ≤ level ∧ level ≤ 6
  | paragraph first more =>
      (∀ s ∈ first :: more, Plain s)
        ∧ Link.definition? (Text.joinWith ['\n'] (first :: more)) = none
  | items first more => ∀ s ∈ first :: more, ItemText s
  | code length info content =>
      3 ≤ length ∧ '\x60' ∉ info
        ∧ ∀ s ∈ content, ∀ t, t <:+ s → Marker.closesFence '\x60' length t = false

end Chunk

/-- The lines of chunks, with a blank line between neighbours. -/
def layout : List Chunk → List (List Char)
  | [] => [[]]
  | [c] => c.lines
  | c :: rest => c.lines ++ [] :: layout rest

/-- The blocks of chunks that are laid out from `offset` on. -/
def blocksAt (offset : Nat) : List Chunk → List Block
  | [] => []
  | c :: rest => c.block offset :: blocksAt (offset + Text.byteLength (unlines c.lines) + 1) rest

/-! ## First lines -/

theorem opener_heading {level : Nat} (positive : 1 ≤ level) (text : List Char) :
    Opener (List.replicate level '#' ++ ' ' :: text) := by
  obtain ⟨n, rfl⟩ : ∃ n, level = n + 1 := ⟨level - 1, by omega⟩
  rw [List.replicate_succ, List.cons_append]
  refine ⟨⟨'#', rfl, rfl⟩, by simp, fun offset column => item?_of_unmarked ?_⟩
  simp [Marker.bullet?]

theorem heading?_signs {level : Nat} (positive : 1 ≤ level) (small : level ≤ 6)
    (text : List Char) :
    Marker.heading? (List.replicate level '#' ++ ' ' :: text)
      = some (level, Chunk.headingText text) := by
  have signs : (List.replicate level '#' ++ ' ' :: text).takeWhile (· = '#')
      = List.replicate level '#' := by
    rw [List.takeWhile_append_of_pos (by simp)]
    simp
  have some : (List.replicate level '#').isEmpty = false := by
    cases level with
    | zero => omega
    | succ n => rfl
  have skipped : (' ' :: text).dropWhile isSpace = text.dropWhile isSpace := by
    simp [isSpace]
  unfold Marker.heading?
  simp only [signs, some, List.length_replicate, List.drop_left', Nat.not_lt.2 small, skipped]
  simp only [Bool.false_eq_true, false_or, List.head?_cons, Option.all_some, isSpace]
  unfold Chunk.headingText
  simp only [decide_true, Bool.true_or, Bool.not_true, Bool.false_eq_true, if_false]
  split
  · rfl
  · split
    · rfl
    · rfl

theorem opener_fence {length : Nat} (long : 3 ≤ length) (info : List Char) :
    Opener (List.replicate length '\x60' ++ info) := by
  obtain ⟨n, rfl⟩ : ∃ n, length = n + 1 := ⟨length - 1, by omega⟩
  rw [List.replicate_succ, List.cons_append]
  refine ⟨⟨'\x60', rfl, rfl⟩, by simp, fun offset column => item?_of_unmarked ?_⟩
  simp [Marker.bullet?]

theorem fence?_ticks {length : Nat} (long : 3 ≤ length) {info : List Char}
    (noTick : '\x60' ∉ info) :
    Marker.fence? (List.replicate length '\x60' ++ info) = some ('\x60', length, info) := by
  have ticks : (List.replicate length '\x60' ++ info).takeWhile (· = '\x60')
      = List.replicate length '\x60' := by
    rw [List.takeWhile_append_of_pos (by simp)]
    have none : info.takeWhile (· = '\x60') = [] := by
      cases info with
      | nil => rfl
      | cons c rest =>
          have other : c ≠ '\x60' := fun h => noTick (h ▸ List.mem_cons_self)
          simp [other]
    rw [none, List.append_nil]
  obtain ⟨n, rfl⟩ : ∃ n, length = n + 1 := ⟨length - 1, by omega⟩
  rw [List.replicate_succ, List.cons_append] at ticks ⊢
  unfold Marker.fence?
  simp only [ticks]
  simp [noTick]
  omega

/-! ## Reading chunks -/

/-- The document that ends here. -/
def State.finish (s : State) : Tree :=
  let last := s.closeLeaf
  let last := last.closeLayers last.layers.length
  ⟨last.blocks.reverse, last.definitions.reverse⟩

/-- A state with `blocks` behind it: everything is closed, or a list is that the next
block closes. -/
structure Clear (blocks : List Block) (s : State) : Prop where
  ahead : s.ahead = 0
  step : ∀ line next, Opener line.chars → s.step line next = (between blocks).step line next

/-- A state in which the last of `blocks` can still go on, and a blank line ends it. -/
structure Ending (isItems : Bool) (blocks : List Block) (s : State) : Prop where
  ahead : s.ahead = 0
  finish : s.finish = ⟨blocks.reverse, []⟩
  clear : ∀ line next, line.chars = [] → Clear blocks (s.step line next)
  closed : isItems = false → ∀ line next, line.chars = [] → s.step line next = between blocks

theorem clear_between (blocks : List Block) : Clear blocks (between blocks) :=
  ⟨rfl, fun _ _ _ => rfl⟩

theorem Ending.of_closed {blocks : List Block} {s : State} (ahead : s.ahead = 0)
    (finish : s.finish = ⟨blocks.reverse, []⟩)
    (closed : ∀ line next, line.chars = [] → s.step line next = between blocks) (isItems : Bool) :
    Ending isItems blocks s where
  ahead := ahead
  finish := finish
  clear := fun line next blank => closed line next blank ▸ clear_between blocks
  closed := fun _ => closed

theorem ending_between (blocks : List Block) (isItems : Bool) :
    Ending isItems blocks (between blocks) := by
  refine .of_closed ?_ ?_ (fun line next blank => ?_) isItems
  · rfl
  · rfl
  · rcases line with ⟨offset, chars, ending⟩
    dsimp only at blank
    subst blank
    exact step_blank blocks offset ending next

theorem ending_inParagraph (blocks : List Block) (offset : Nat) (text : List Char)
    (isItems : Bool) :
    Ending isItems (.leaf (.paragraph text) offset :: blocks) (inParagraph blocks offset text) := by
  refine .of_closed ?_ ?_ (fun line next blank => ?_) isItems
  · rfl
  · unfold State.finish
    rw [closeLeaf_inParagraph]
    rfl
  · rcases line with ⟨behind, chars, ending⟩
    dsimp only at blank
    subst blank
    exact step_paragraph_end blocks offset behind text ending next

theorem ending_inItem (blocks : List Block) (start : Nat) (items : List Block) (offset : Nat)
    (s : List Char) :
    Ending true (.container (.list true) start (itemBlock offset s :: items).reverse :: blocks)
      (inItem blocks start items offset s) where
  ahead := rfl
  finish := by
    unfold State.finish
    rw [closeLeaf_inItem]
    rfl
  clear := by
    rintro ⟨behind, chars, ending⟩ next blank
    dsimp only at blank
    subst blank
    rw [step_items_end]
    exact ⟨rfl, fun line next opener => step_afterItem opener blocks start items offset s next⟩
  closed := fun h => nomatch h

/-- **A readable chunk is read as its block** where nothing is open. -/
theorem readLines_chunk {c : Chunk} (readable : c.Readable) (blocks : List Block) (offset : Nat)
    {tail : List Line} (ends : EndsBlock tail) :
    ∃ s, (between blocks).readLines (linesAt offset c.lines ++ tail) = s.readLines tail
      ∧ Ending c.isItems (c.block offset :: blocks) s := by
  cases c with
  | heading level text =>
      obtain ⟨positive, small⟩ := readable
      refine ⟨_, ?_, ending_between _ _⟩
      simp only [Chunk.lines, linesAt, List.singleton_append]
      rw [readLines_cons rfl,
        step_heading (opener_heading positive text) (heading?_signs positive small text)]
      rfl
  | paragraph first more =>
      obtain ⟨plain, noDefinition⟩ := readable
      exact ⟨_, readLines_paragraph plain noDefinition blocks offset ends,
        ending_inParagraph _ _ _ _⟩
  | items first more =>
      obtain ⟨items, last, t, reads, are⟩ := readLines_items readable blocks offset ends
      refine ⟨_, reads, ?_⟩
      have ending := ending_inItem blocks offset items last t
      rw [are] at ending
      exact ending
  | code length info content =>
      obtain ⟨long, noTick, inside⟩ := readable
      exact ⟨_, readLines_fenced (opener_fence long info) (fence?_ticks long noTick) long inside
        blocks offset tail, ending_between _ _⟩

/-- The first line of a readable chunk that is no list opens its block. -/
theorem Chunk.opener {c : Chunk} (readable : c.Readable) (noItems : c.isItems = false) :
    ∃ s rest, c.lines = s :: rest ∧ Opener s := by
  cases c with
  | heading level text => exact ⟨_, _, rfl, opener_heading readable.1 text⟩
  | paragraph first more => exact ⟨_, _, rfl, (readable.1 first List.mem_cons_self).toOpener⟩
  | items first more => cases noItems
  | code length info content => exact ⟨_, _, rfl, opener_fence readable.1 info⟩

/-- No list follows a list. -/
def Apart (chunks : List Chunk) : Prop :=
  chunks.IsChain fun c d => ¬(c.isItems = true ∧ d.isItems = true)

/-- A chunk goes on from a state that is clear as from one where everything is closed. -/
theorem readLines_clear {c : Chunk} (readable : c.Readable) (noItems : c.isItems = false)
    {blocks : List Block} {s : State} (clear : Clear blocks s) (offset : Nat) (tail : List Line) :
    s.readLines (linesAt offset c.lines ++ tail)
      = (between blocks).readLines (linesAt offset c.lines ++ tail) := by
  obtain ⟨first, rest, lines, opener⟩ := Chunk.opener readable noItems
  rw [lines, linesAt, List.cons_append, readLines_cons clear.ahead, readLines_cons rfl,
    clear.step _ _ opener]

theorem layout_cons_cons (c d : Chunk) (rest : List Chunk) :
    layout (c :: d :: rest) = c.lines ++ [] :: layout (d :: rest) := rfl

theorem endsBlock_nil : EndsBlock [] := fun _ _ h => nomatch h

theorem endsBlock_blank (offset : Nat) (rest : List (List Char)) :
    EndsBlock (linesAt offset ([] :: rest)) := by
  rintro line tail same
  cases same
  rfl

/-- A chunk is read as its block from a state that is clear, and where everything is closed
if it is a list. -/
theorem readLines_next {c : Chunk} (readable : c.Readable) {blocks : List Block} {s : State}
    (clear : Clear blocks s) (closed : c.isItems = true → s = between blocks) (offset : Nat)
    {tail : List Line} (ends : EndsBlock tail) :
    ∃ last, s.readLines (linesAt offset c.lines ++ tail) = last.readLines tail
      ∧ Ending c.isItems (c.block offset :: blocks) last := by
  obtain ⟨last, reads, ending⟩ := readLines_chunk readable blocks offset ends
  refine ⟨last, ?_, ending⟩
  by_cases list : c.isItems = true
  · rw [closed list, reads]
  · rw [readLines_clear readable (Bool.eq_false_iff.2 list) clear, reads]

theorem readLines_nil (s : State) : s.readLines [] = s := by
  rw [State.readLines]

/-- Chunks that follow a clear state are read as their blocks. -/
theorem finish_layout {c : Chunk} {rest : List Chunk}
    (readable : ∀ d ∈ c :: rest, d.Readable) (apart : Apart (c :: rest)) {blocks : List Block}
    {s : State} (clear : Clear blocks s) (closed : c.isItems = true → s = between blocks)
    (offset : Nat) :
    (s.readLines (linesAt offset (layout (c :: rest)))).finish
      = ⟨blocks.reverse ++ blocksAt offset (c :: rest), []⟩ := by
  induction rest generalizing c blocks s offset with
  | nil =>
      have here : c.Readable := readable c List.mem_cons_self
      obtain ⟨last, reads, ending⟩ := readLines_next here clear closed offset endsBlock_nil
      rw [List.append_nil, readLines_nil] at reads
      rw [layout, reads, ending.finish]
      simp [blocksAt]
  | cons d rest ih =>
      obtain ⟨here, others⟩ := List.forall_mem_cons.1 readable
      obtain ⟨notBoth, apart⟩ := List.isChain_cons_cons.1 apart
      have blank := endsBlock_blank (offset + Text.byteLength (unlines c.lines))
        (layout (d :: rest))
      obtain ⟨last, reads, ending⟩ := readLines_next here clear closed offset blank
      rw [layout_cons_cons, linesAt_append, reads, linesAt, readLines_cons ending.ahead]
      rw [ih others apart (ending.clear _ _ rfl)
        (fun list => ending.closed (Bool.eq_false_iff.2 fun both => notBoth ⟨both, list⟩) _ _ rfl)]
      simp [blocksAt]

/-- A chunk that is read as it was written. -/
structure Chunk.Sound (c : Chunk) : Prop where
  readable : c.Readable
  isLine : ∀ s ∈ c.lines, IsLine s

theorem isLine_layout {chunks : List Chunk} (sound : ∀ c ∈ chunks, c.Sound) :
    ∀ s ∈ layout chunks, IsLine s := by
  have blank : IsLine [] := ⟨List.not_mem_nil, List.not_mem_nil⟩
  induction chunks with
  | nil => simpa [layout] using blank
  | cons c rest ih =>
      obtain ⟨here, others⟩ := List.forall_mem_cons.1 sound
      cases rest with
      | nil => exact here.isLine
      | cons d rest =>
          rw [layout_cons_cons]
          intro s member
          rcases List.mem_append.1 member with inside | behind
          · exact here.isLine s inside
          · rcases List.mem_cons.1 behind with rfl | later
            · exact blank
            · exact ih others s later

/-- **A document that is laid out from sound chunks is read as their blocks.** -/
theorem ofSource_layout {chunks : List Chunk} (sound : ∀ c ∈ chunks, c.Sound)
    (apart : Apart chunks) :
    Tree.ofSource (String.ofList (unlines (layout chunks))) = ⟨blocksAt 0 chunks, []⟩ := by
  show (State.readLines {} (linesOf (String.ofList (unlines (layout chunks))).toList)).finish = _
  rw [String.toList_ofList, linesOf_unlines (isLine_layout sound)]
  cases chunks with
  | nil => rfl
  | cons c rest =>
      exact finish_layout (fun d hd => (sound d hd).readable) apart (clear_between [])
        (fun _ => rfl) 0

/-! ## Events -/

/-- The events of a chunk that starts at `offset`. -/
def Chunk.events (offset : Nat) (c : Chunk) : List Event := (c.block offset).events [] false

/-- The events of chunks that are laid out from `offset` on. -/
def eventsAt (offset : Nat) : List Chunk → List Event
  | [] => []
  | c :: rest =>
      c.events offset ++ eventsAt (offset + Text.byteLength (unlines c.lines) + 1) rest

theorem eventsOf_blocksAt (chunks : List Chunk) (offset : Nat) :
    Block.eventsOf [] false (blocksAt offset chunks) = eventsAt offset chunks := by
  induction chunks generalizing offset with
  | nil => rfl
  | cons c rest ih => rw [blocksAt, Block.eventsOf, ih, eventsAt, Chunk.events]

end PromptPipeline.Markdown
