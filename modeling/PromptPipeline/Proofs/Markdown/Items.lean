/-
# Proofs.Markdown.Items -- reading a list of plain items

Lines that are marked by a hyphen are read as a tight list, each line as an item
with one paragraph.  The list is closed by the line that opens the next block, which
is then read as if the list had been closed before.
-/
import PromptPipeline.Proofs.Markdown.Leaves

namespace PromptPipeline.Markdown

set_option autoImplicit false

/-- A line that is a paragraph of its own, also as the content of an item. -/
structure ItemText (s : List Char) : Prop extends Plain s where
  noHyphen : s.head? ≠ some '-'
  noBracket : s.head? ≠ some '['

/-- The line of an item. -/
def itemLine (s : List Char) : List Char := '-' :: ' ' :: s

/-- The block of an item whose line starts at `offset`. -/
def itemBlock (offset : Nat) (s : List Char) : Block :=
  .container .item offset [.leaf (.paragraph s) (offset + 2)]

/-- The state while the last of some items is read, the others last first. -/
def inItem (blocks : List Block) (start : Nat) (items : List Block) (offset : Nat)
    (s : List Char) : State :=
  { layers := [⟨.item 2, offset, []⟩, ⟨.list '-' true, start, items⟩]
    blocks
    leaf := some (.paragraph (offset + 2) s.reverse) }

/-- The state where the last of some items has been read, with or without a blank line. -/
def afterItem (blocks : List Block) (start : Nat) (items : List Block) (offset : Nat)
    (s : List Char) (afterBlank : Bool) : State :=
  { layers :=
      [⟨.item 2, offset, [.leaf (.paragraph s) (offset + 2)]⟩, ⟨.list '-' true, start, items⟩]
    blocks
    afterBlank }

namespace ItemText

variable {s : List Char}

theorem not_rule (text : ItemText s) : Marker.isRule (itemLine s) = false := by
  obtain ⟨c, first, solid⟩ := text.solid
  have noHyphen := text.noHyphen
  cases s with
  | nil => cases first
  | cons d rest =>
      obtain rfl : d = c := Option.some.inj first
      have other : d ≠ '-' := fun h => noHyphen (h ▸ rfl)
      have noSpace : ¬(d = ' ' ∨ d = '\t') := by
        rintro (rfl | rfl)
        · cases solid
        · cases solid
      simp [Marker.isRule, itemLine, other, not_or.1 noSpace]

theorem item?_itemLine (text : ItemText s) (offset : Nat) :
    Marker.item? 0 ⟨itemLine s, offset, 0, 0⟩ = some ('-', 2, ⟨s, offset + 2, 2, 0⟩) := by
  have bullet : Marker.bullet? (itemLine s) = some ('-', 1, 1, ' ' :: s) := by
    simp [Marker.bullet?, itemLine]
  have behind : (Cursor.advance ⟨itemLine s, offset, 0, 0⟩ 1).pass?
      = some ⟨s, offset + 2, 2, 0⟩ := rfl
  have passes : guard (!Marker.isRule (itemLine s)) = some () := by
    rw [text.not_rule]
    rfl
  unfold Marker.item?
  dsimp only
  rw [passes, bullet]
  simp [behind, text.not_blank, text.indent]

theorem interrupts_itemLine (s : List Char) (next : List Line) :
    Marker.interrupts false next (itemLine s) = true := by
  simp [Marker.interrupts, Marker.interruptsAsItem, Marker.bullet?, itemLine]

theorem indent_itemLine (s : List Char) (n offset : Nat) :
    Cursor.indent n ⟨itemLine s, offset, 0, 0⟩ = (0, ⟨itemLine s, offset, 0, 0⟩) :=
  Cursor.indent_of_solid rfl rfl n offset 0

/-- Where a list is open, a line of an item goes on with the list and not with the item
before it. -/
theorem continueFrames_itemLine (s : List Char) (mark : Char) (tight : Bool) (offset : Nat) :
    continueFrames [.list mark tight, .item 2] ⟨itemLine s, offset, 0, 0⟩
      = (1, ⟨itemLine s, offset, 0, 0⟩) := by
  simp only [continueFrames, Frame.continue?, indent_itemLine]
  rfl

end ItemText

/-- What may follow an item: nothing, a blank line or another item. -/
def EndsItem (tail : List Line) : Prop :=
  ∀ line rest, tail = line :: rest → line.chars = [] ∨ ∃ s, line.chars = itemLine s

theorem continuation_item {tail : List Line} (ends : EndsItem tail) (mark : Char) (tight : Bool) :
    continuation [.list mark tight, .item 2] tail = [] := by
  cases tail with
  | nil => rfl
  | cons line rest =>
      rcases line with ⟨offset, chars, ending⟩
      rcases ends _ rest rfl with blank | ⟨s, item⟩
      · dsimp only at blank
        subst blank
        rfl
      · dsimp only at item
        subst item
        rw [continuation]
        simp [Cursor.start, ItemText.continueFrames_itemLine, ItemText.indent_itemLine,
          ItemText.interrupts_itemLine]

/-- The text of an item opens a paragraph in it. -/
theorem openLeaf_item {s : List Char} (text : ItemText s) (state : State) (offset : Nat)
    {tail : List Line} (ends : EndsItem tail) {mark : Char} {tight : Bool}
    (frames : state.frames = [.list mark tight, .item 2]) :
    state.openLeaf 0 ⟨s, offset, 2, 0⟩ tail
      = { state with leaf := some (.paragraph offset s.reverse) } := by
  have noDefinition : Link.definition? s = none := by
    have noBracket := text.noBracket
    unfold Link.definition?
    split
    · exact absurd rfl noBracket
    · rfl
  rw [openLeaf_of_not_html text.noHtml]
  simp only [text.noRule, text.noHeading, text.noFence, Bool.false_eq_true, if_false]
  unfold State.openParagraph
  simp only [frames, continuation_item ends, List.append_nil, noDefinition]

theorem openContainers_item {s : List Char} (text : ItemText s) (state : State)
    (fuel offset : Nat) :
    openContainers (fuel + 1) state ⟨itemLine s, offset, 0, 0⟩
      = ((state.continueList '-' offset).openLayer (.item 2) offset,
        some ⟨s, offset + 2, 2, 0⟩) := by
  rw [openContainers, ItemText.indent_itemLine]
  simp only [Nat.reduceEqDiff, if_false, text.item?_itemLine, text.not_blank, Bool.false_eq_true,
    openContainers_of_opener text.toOpener]

theorem openBlock_item {s : List Char} (text : ItemText s) (state : State) (depth offset : Nat)
    (ending : List Char) (tail : List Line) :
    state.openBlock depth (.start ⟨offset, itemLine s, ending⟩) ⟨offset, itemLine s, ending⟩ tail
      = ({ ((state.closeLayers (state.layers.length - depth)).continueList '-' offset).openLayer
            (.item 2) offset with emptyItem := false }.finishList).openLeaf 0
          ⟨s, offset + 2, 2, 0⟩ tail := by
  have fuel : (itemLine s).length = (s.length + 1) + 1 := rfl
  unfold State.openBlock
  simp only [Cursor.start]
  rw [fuel, openContainers_item text]
  simp only [text.not_blank, Bool.false_eq_true, if_false, text.indent, Nat.reduceEqDiff]

/-- The first item of a list. -/
theorem step_first_item {s : List Char} (text : ItemText s) (blocks : List Block) (offset : Nat)
    (ending : List Char) {tail : List Line} (ends : EndsItem tail) :
    (between blocks).step ⟨offset, itemLine s, ending⟩ tail
      = inItem blocks offset [] offset s := by
  have opens := openBlock_item text (between blocks) 0 offset ending tail
  rw [openLeaf_item text _ _ ends rfl] at opens
  exact opens

theorem closeLeaf_inItem (blocks : List Block) (start : Nat) (items : List Block) (offset : Nat)
    (s : List Char) :
    (inItem blocks start items offset s).closeLeaf
      = afterItem blocks start items offset s false := by
  simp [inItem, afterItem, State.closeLeaf, State.add]

theorem step_next_item {s t : List Char} (text : ItemText t) (blocks : List Block)
    (start : Nat) (items : List Block) (before offset : Nat) (ending : List Char)
    {tail : List Line} (ends : EndsItem tail) :
    (inItem blocks start items before s).step ⟨offset, itemLine t, ending⟩ tail
      = inItem blocks start (itemBlock before s :: items) offset t := by
  have opens : (afterItem blocks start items before s false).openBlock 1
      (.start ⟨offset, itemLine t, ending⟩) ⟨offset, itemLine t, ending⟩ tail
        = inItem blocks start (itemBlock before s :: items) offset t := by
    rw [openBlock_item text, openLeaf_item text _ _ ends rfl]
    rfl
  have frames : (inItem blocks start items before s).frames = [.list '-' true, .item 2] := rfl
  simp only [Cursor.start] at opens
  unfold State.step
  rw [frames, closeLeaf_inItem]
  simp only [Cursor.start, ItemText.continueFrames_itemLine, ItemText.indent_itemLine, opens]
  simp [inItem, ItemText.interrupts_itemLine]

theorem step_items_end (blocks : List Block) (start : Nat) (items : List Block)
    (offset : Nat) (s : List Char) (behind : Nat) (ending : List Char) (next : List Line) :
    (inItem blocks start items offset s).step ⟨behind, [], ending⟩ next
      = afterItem blocks start items offset s true := by
  have frames : (inItem blocks start items offset s).frames = [.list '-' true, .item 2] := rfl
  unfold State.step
  rw [frames, closeLeaf_inItem]
  rfl

/-- A line that opens another block closes the list before. -/
theorem step_afterItem {line : Line} (opener : Opener line.chars) (blocks : List Block)
    (start : Nat) (items : List Block) (offset : Nat) (s : List Char) (next : List Line) :
    (afterItem blocks start items offset s true).step line next
      = (between (.container (.list true) start (itemBlock offset s :: items).reverse
          :: blocks)).step line next := by
  have frames : (afterItem blocks start items offset s true).frames
      = [.list '-' true, .item 2] := rfl
  have depth : continueFrames [.list '-' true, .item 2] (Cursor.start line)
      = (1, Cursor.start line) := by
    obtain ⟨c, first, -⟩ := opener.solid
    have notEmpty : line.chars.isEmpty = false := by
      cases chars : line.chars with
      | nil =>
          rw [chars] at first
          cases first
      | cons c rest => rfl
    simp [continueFrames, Frame.continue?, Cursor.start, opener.indent, notEmpty]
  rw [step_opener opener]
  unfold State.step
  rw [frames, depth]
  exact (afterItem blocks start items offset s true).openBlock_of_opener opener 1 next

/-! ## Whole lists -/

/-- The blocks of items whose lines follow each other from `offset` on. -/
def itemBlocks (offset : Nat) : List (List Char) → List Block
  | [] => []
  | s :: rest => itemBlock offset s :: itemBlocks (offset + Text.byteLength (itemLine s) + 1) rest

theorem endsItem_of_endsBlock {tail : List Line} (ends : EndsBlock tail) : EndsItem tail :=
  fun line rest same => .inl (ends line rest same)

theorem endsItem_linesAt (s : List Char) (more : List (List Char)) (offset : Nat)
    (tail : List Line) : EndsItem (linesAt offset ((s :: more).map itemLine) ++ tail) := by
  rintro line rest same
  cases same
  exact .inr ⟨s, rfl⟩

theorem readLines_items_from {more : List (List Char)} (texts : ∀ s ∈ more, ItemText s)
    (blocks : List Block) (start : Nat) (items : List Block) (before offset : Nat)
    (s : List Char) {tail : List Line} (ends : EndsBlock tail) :
    ∃ items' last t,
      (inItem blocks start items before s).readLines (linesAt offset (more.map itemLine) ++ tail)
        = (inItem blocks start items' last t).readLines tail
      ∧ (itemBlock last t :: items').reverse
        = (itemBlock before s :: items).reverse ++ itemBlocks offset more := by
  induction more generalizing items before offset s with
  | nil => exact ⟨items, before, s, by simp [linesAt], by simp [itemBlocks]⟩
  | cons t more ih =>
      obtain ⟨first, others⟩ := List.forall_mem_cons.1 texts
      have next : EndsItem (linesAt (offset + Text.byteLength (itemLine t) + 1)
          (more.map itemLine) ++ tail) := by
        cases more with
        | nil => exact endsItem_of_endsBlock ends
        | cons u more => exact endsItem_linesAt u more _ tail
      obtain ⟨items', last, u, reads, are⟩ := ih others (itemBlock before s :: items) offset
        (offset + Text.byteLength (itemLine t) + 1) t
      refine ⟨items', last, u, ?_, ?_⟩
      · rw [List.map_cons, linesAt, List.cons_append, readLines_cons rfl,
          step_next_item first _ _ _ _ _ _ next, reads]
      · rw [are]
        simp [itemBlocks]

/-- **Lines of items are read as a tight list.** -/
theorem readLines_items {s : List Char} {more : List (List Char)}
    (texts : ∀ x ∈ s :: more, ItemText x) (blocks : List Block) (offset : Nat)
    {tail : List Line} (ends : EndsBlock tail) :
    ∃ items last t,
      (between blocks).readLines (linesAt offset ((s :: more).map itemLine) ++ tail)
        = (inItem blocks offset items last t).readLines tail
      ∧ (itemBlock last t :: items).reverse = itemBlocks offset (s :: more) := by
  obtain ⟨first, others⟩ := List.forall_mem_cons.1 texts
  have next : EndsItem (linesAt (offset + Text.byteLength (itemLine s) + 1)
      (more.map itemLine) ++ tail) := by
    cases more with
    | nil => exact endsItem_of_endsBlock ends
    | cons u more => exact endsItem_linesAt u more _ tail
  obtain ⟨items, last, t, reads, are⟩ := readLines_items_from others blocks offset [] offset
    (offset + Text.byteLength (itemLine s) + 1) s ends
  refine ⟨items, last, t, ?_, ?_⟩
  · rw [List.map_cons, linesAt, List.cons_append, readLines_cons rfl,
      step_first_item first _ _ _ next, reads]
  · rw [are]
    simp [itemBlocks]

end PromptPipeline.Markdown
