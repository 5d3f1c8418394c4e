/-
# Proofs.Markdown.Leaves -- reading a block where no other is open

`between` is the state between two blocks of a document, where everything is closed.
-/
import PromptPipeline.Markdown.Reader
import PromptPipeline.Proofs.Markdown.Lines
import PromptPipeline.Proofs.Text.Split

namespace PromptPipeline.Markdown

set_option autoImplicit false

/-! ## Lines that open a leaf -/

/-- Without a mark there is no item. -/
theorem item?_of_unmarked {outer : Nat} {c : Cursor} (noMark : Marker.bullet? c.rest = none) :
    Marker.item? outer c = none := by
  unfold Marker.item?
  rw [noMark]
  cases guard (f := Option) ((!Marker.isRule c.rest) = true) with
  | none => rfl
  | some _ => rfl

/-- Without white space behind its mark there is no item. -/
theorem item?_of_unspaced {outer size : Nat} {c : Cursor} {mark : Char} {number : Nat}
    {first : Char} {after : List Char}
    (bullet : Marker.bullet? c.rest = some (mark, number, size, first :: after))
    (noSpace : (c.advance size).pass? = none) : Marker.item? outer c = none := by
  unfold Marker.item?
  rw [bullet]
  dsimp only [bind, Option.bind]
  rw [List.isEmpty_cons, if_neg Bool.false_ne_true, noSpace]
  cases guard (f := Option) ((!Marker.isRule c.rest) = true) with
  | none => rfl
  | some _ => rfl

/-- A line that opens no container and is not indented. -/
structure Opener (s : List Char) : Prop where
  solid : ∃ c, s.head? = some c ∧ isSpace c = false
  noQuote : s.head? ≠ some '>'
  noItem : ∀ offset column, Marker.item? 0 ⟨s, offset, column, 0⟩ = none

theorem Cursor.indent_zero (c : Cursor) : c.indent 0 = (0, c) := rfl

/-- White space ends where another character stands. -/
theorem Cursor.indent_of_solid {s : List Char} {c : Char} (first : s.head? = some c)
    (solid : isSpace c = false) (n offset column : Nat) :
    Cursor.indent n ⟨s, offset, column, 0⟩ = (0, ⟨s, offset, column, 0⟩) := by
  cases n with
  | zero => rfl
  | succ n =>
      cases s with
      | nil => cases first
      | cons d rest =>
          obtain rfl : d = c := Option.some.inj first
          have stays : Cursor.pass? ⟨d :: rest, offset, column, 0⟩ = none := by
            unfold Cursor.pass?
            split
            · rename_i owed
              exact nomatch owed
            · rename_i space
              cases space
              cases solid
            · rename_i tab
              cases tab
              cases solid
            · rfl
          rw [Cursor.indent, stays]

theorem Opener.indent {s : List Char} (opener : Opener s) (n offset column : Nat) :
    Cursor.indent n ⟨s, offset, column, 0⟩ = (0, ⟨s, offset, column, 0⟩) := by
  obtain ⟨c, first, solid⟩ := opener.solid
  exact Cursor.indent_of_solid first solid n offset column

theorem Opener.not_blank {s : List Char} (opener : Opener s) : isBlankLine s = false := by
  obtain ⟨c, first, solid⟩ := opener.solid
  cases s with
  | nil => cases first
  | cons d rest =>
      obtain rfl : d = c := Option.some.inj first
      simp [isBlankLine, solid]

theorem Opener.not_spaces {s : List Char} (opener : Opener s) : isSpaces s = false := by
  obtain ⟨c, first, solid⟩ := opener.solid
  cases s with
  | nil => cases first
  | cons d rest =>
      obtain rfl : d = c := Option.some.inj first
      have noSpace : ¬(d = ' ' ∨ d = '\t') := by
        rintro (rfl | rfl)
        · cases solid
        · cases solid
      simp [isSpaces, not_or.1 noSpace]

theorem openContainers_of_opener {s : List Char} (opener : Opener s) (fuel offset column : Nat)
    (state : State) :
    openContainers fuel state ⟨s, offset, column, 0⟩
      = (state, some ⟨s, offset, column, 0⟩) := by
  cases fuel with
  | zero => rfl
  | succ fuel =>
      rw [openContainers, opener.indent]
      simp only [Nat.reduceEqDiff, if_false, opener.noItem, opener.noQuote]

theorem State.openBlock_of_opener {line : Line} (opener : Opener line.chars) (s : State)
    (depth : Nat) (next : List Line) :
    s.openBlock depth (.start line) line next
      = ({ s.closeLayers (s.layers.length - depth) with emptyItem := false }.finishList).openLeaf 0
          (.start line) next := by
  unfold State.openBlock
  simp only [Cursor.start]
  rw [openContainers_of_opener opener]
  simp only [opener.not_blank, Bool.false_eq_true, if_false, opener.indent, Nat.reduceEqDiff]

/-! ## Between blocks -/

/-- The state between two blocks of a document. -/
def between (blocks : List Block) : State := { blocks }

theorem step_opener {line : Line} (opener : Opener line.chars) (blocks : List Block)
    (next : List Line) :
    (between blocks).step line next = (between blocks).openLeaf 0 (.start line) next :=
  (between blocks).openBlock_of_opener opener 0 next

/-- A blank line between blocks leaves no trace. -/
theorem step_blank (blocks : List Block) (offset : Nat) (ending : List Char) (next : List Line) :
    (between blocks).step ⟨offset, [], ending⟩ next = between blocks := rfl

/-- A line that is no HTML opens a rule, a heading, a code block or a paragraph. -/
theorem openLeaf_of_not_html {c : Cursor} (noHtml : c.rest.head? ≠ some '<') (s : State)
    (indent : Nat) (next : List Line) :
    s.openLeaf indent c next
      = if Marker.isRule c.rest then s.add (.leaf .rule c.offset)
        else
          match Marker.heading? c.rest with
          | some (level, title) => s.add (.leaf (.heading level title) c.offset)
          | none =>
              match Marker.fence? c.rest with
              | some (mark, length, info) =>
                  let info := String.ofList (Link.unescape (Text.strip isSpace info))
                  { s with leaf := some (.fenced c.offset info mark length indent []) }
              | none => s.openParagraph c next := by
  unfold State.openLeaf
  split
  · rename_i html
    exact absurd (by rw [html]; rfl) noHtml
  · rfl

/-! ## Headings -/

theorem head_of_heading {s text : List Char} {level : Nat}
    (heading : Marker.heading? s = some (level, text)) : ∃ rest, s = '#' :: rest := by
  cases s with
  | nil => simp [Marker.heading?] at heading
  | cons c rest =>
      by_cases sign : c = '#'
      · exact ⟨rest, sign ▸ rfl⟩
      · simp [Marker.heading?, sign] at heading

theorem step_heading {s text : List Char} {level : Nat} (opener : Opener s)
    (heading : Marker.heading? s = some (level, text)) (blocks : List Block) (offset : Nat)
    (ending : List Char) (next : List Line) :
    (between blocks).step ⟨offset, s, ending⟩ next
      = between (.leaf (.heading level text) offset :: blocks) := by
  rw [step_opener opener]
  obtain ⟨rest, rfl⟩ := head_of_heading heading
  have noRule : Marker.isRule ('#' :: rest) = false := by
    simp [Marker.isRule]
  have noHtml : (Cursor.start ⟨offset, '#' :: rest, ending⟩).rest.head? ≠ some '<' := by
    simp [Cursor.start]
  rw [openLeaf_of_not_html noHtml]
  simp only [Cursor.start, noRule, heading, Bool.false_eq_true, if_false]
  rfl

/-! ## Paragraphs -/

/-- A line that opens and continues nothing but a paragraph. -/
structure Plain (s : List Char) : Prop extends Opener s where
  noHtml : s.head? ≠ some '<'
  noRule : Marker.isRule s = false
  noHeading : Marker.heading? s = none
  noFence : Marker.fence? s = none
  noUnderline : Marker.underline? s = none
  noItemInside : ∀ next, Marker.interruptsAsItem true next s = false

theorem Plain.interrupts {s : List Char} (plain : Plain s) (next : List Line) :
    Marker.interrupts true next s = false := by
  unfold Marker.interrupts
  simp [plain.noRule, plain.noHeading, plain.noFence, plain.noQuote, plain.noItemInside,
    plain.noHtml]

/-- The state while a paragraph is read. -/
def inParagraph (blocks : List Block) (offset : Nat) (text : List Char) : State :=
  { blocks, leaf := some (.paragraph offset text.reverse) }

/-- A plain line opens a paragraph, or the definitions of links. -/
theorem step_plain_first {line : Line} (plain : Plain line.chars) (blocks : List Block)
    (next : List Line) :
    (between blocks).step line next = (between blocks).openParagraph (.start line) next := by
  rw [step_opener plain.toOpener, openLeaf_of_not_html plain.noHtml]
  simp only [Cursor.start, plain.noRule, plain.noHeading, plain.noFence, Bool.false_eq_true,
    if_false]

theorem closeLeaf_inParagraph (blocks : List Block) (offset : Nat) (text : List Char) :
    (inParagraph blocks offset text).closeLeaf
      = between (.leaf (.paragraph text) offset :: blocks) := by
  simp [State.closeLeaf, inParagraph, between, State.add]

theorem step_plain {s : List Char} (plain : Plain s) (blocks : List Block) (start offset : Nat)
    (text ending : List Char) (next : List Line) :
    (inParagraph blocks start text).step ⟨offset, s, ending⟩ next
      = inParagraph blocks start (text ++ '\n' :: s) := by
  unfold State.step
  simp only [inParagraph, State.frames, List.map_nil, List.reverse_nil, continueFrames,
    Cursor.start, plain.indent, plain.noUnderline, plain.interrupts, plain.not_spaces,
    List.length_nil, decide_true]
  simp

theorem step_paragraph_end (blocks : List Block) (start offset : Nat) (text ending : List Char)
    (next : List Line) :
    (inParagraph blocks start text).step ⟨offset, [], ending⟩ next
      = between (.leaf (.paragraph text) start :: blocks) := by
  unfold State.step
  have closes := closeLeaf_inParagraph blocks start text
  simp only [inParagraph] at closes
  simp only [inParagraph, State.frames, List.map_nil, List.reverse_nil, continueFrames,
    Cursor.start, Cursor.indent, Cursor.pass?, Marker.underline?, isSpaces, List.all_nil, true_or,
    if_true, closes]
  rfl

/-- What follows a paragraph ends it: nothing, or a blank line. -/
def EndsBlock (tail : List Line) : Prop := ∀ line rest, tail = line :: rest → line.chars = []

theorem continuation_plain {more : List (List Char)} (plain : ∀ s ∈ more, Plain s)
    {tail : List Line} (ends : EndsBlock tail) (offset : Nat) :
    continuation [] (linesAt offset more ++ tail) = more.flatMap ('\n' :: ·) := by
  induction more generalizing offset with
  | nil =>
      cases tail with
      | nil => rfl
      | cons line rest =>
          have blank := ends line rest rfl
          simp [linesAt, continuation, continueFrames, Cursor.start, blank, isSpaces]
  | cons s more ih =>
      obtain ⟨first, others⟩ := List.forall_mem_cons.1 plain
      rw [linesAt, List.cons_append, continuation]
      simp only [continueFrames, Cursor.start, first.indent, first.not_spaces, List.length_nil,
        decide_true, first.interrupts, Bool.false_eq_true, and_false, or_self, if_false,
        ih others, List.flatMap_cons, List.cons_append]

theorem readLines_cons {s : State} (ahead : s.ahead = 0) (line : Line) (next : List Line) :
    s.readLines (line :: next) = (s.step line next).readLines next := by
  rw [State.readLines]
  simp only [ahead]

theorem readLines_plain {more : List (List Char)} (plain : ∀ s ∈ more, Plain s)
    (blocks : List Block) (start offset : Nat) (text : List Char) (tail : List Line) :
    (inParagraph blocks start text).readLines (linesAt offset more ++ tail)
      = (inParagraph blocks start (text ++ more.flatMap ('\n' :: ·))).readLines tail := by
  induction more generalizing offset text with
  | nil => simp [linesAt]
  | cons s more ih =>
      obtain ⟨first, others⟩ := List.forall_mem_cons.1 plain
      rw [linesAt, List.cons_append, readLines_cons rfl, step_plain first, ih others]
      simp

/-- **A group of plain lines is read as a paragraph**, unless it defines a link. -/
theorem readLines_paragraph {s : List Char} {more : List (List Char)}
    (plain : ∀ x ∈ s :: more, Plain x)
    (noDefinition : Link.definition? (Text.joinWith ['\n'] (s :: more)) = none)
    (blocks : List Block) (offset : Nat) {tail : List Line} (ends : EndsBlock tail) :
    (between blocks).readLines (linesAt offset (s :: more) ++ tail)
      = (inParagraph blocks offset (Text.joinWith ['\n'] (s :: more))).readLines tail := by
  obtain ⟨first, others⟩ := List.forall_mem_cons.1 plain
  rw [Text.joinWith_cons_flatMap] at noDefinition ⊢
  have opens : (between blocks).step ⟨offset, s, ['\n']⟩
      (linesAt (offset + Text.byteLength s + 1) more ++ tail) = inParagraph blocks offset s := by
    rw [step_plain_first first]
    unfold State.openParagraph
    dsimp only [Cursor.start]
    have frames : (between blocks).frames = [] := rfl
    rw [frames, continuation_plain others ends]
    have none := noDefinition
    simp only [List.singleton_append] at none
    rw [none]
    rfl
  rw [linesAt, List.cons_append, readLines_cons rfl, opens, readLines_plain others]
  simp only [List.singleton_append]

section

variable {s : List Char} (plain : Plain s) (isLine : IsLine s)

include plain isLine

/-- A plain line alone opens a paragraph, or the definition of a link. -/
theorem readLines_alone :
    State.readLines {} (linesOf (String.ofList s).toList)
      = (between []).openParagraph (.start ⟨0, s, []⟩) [] := by
  obtain ⟨c, first, -⟩ := plain.solid
  have filled : s ≠ [] := by
    rintro rfl
    cases first
  rw [String.toList_ofList, linesOf_line isLine filled,
    show ({} : State) = between [] from rfl, readLines_cons rfl, step_plain_first plain,
    State.readLines]

/-- **A plain line alone is read as a paragraph**, unless it defines a link. -/
theorem ofSource_plain (noDefinition : Link.definition? s = none) :
    Tree.ofSource (String.ofList s) = ⟨[.leaf (.paragraph s) 0], []⟩ := by
  have alone : s ++ continuation (between []).frames [] = s := List.append_nil s
  unfold Tree.ofSource
  rw [readLines_alone plain isLine]
  unfold State.openParagraph
  simp only [Cursor.start, alone, noDefinition]
  simp [State.closeLeaf, State.add, between, State.closeLayers]

/-- Where a line defines a link, there is nothing else. -/
theorem ofSource_definition {definition : Link.Definition} {rest : List Char}
    (defines : Link.definition? s = some (definition, rest)) :
    Tree.ofSource (String.ofList s) = ⟨[], [definition]⟩ := by
  have alone : s ++ continuation (between []).frames [] = s := List.append_nil s
  unfold Tree.ofSource
  rw [readLines_alone plain isLine]
  unfold State.openParagraph
  simp only [Cursor.start, alone, defines]
  rfl

end

/-! ## Code blocks -/

/-- The state while a code block is read that a fence of `length` backticks opened. -/
def inFence (blocks : List Block) (offset : Nat) (info : String) (length : Nat)
    (text : List Char) : State :=
  { blocks, leaf := some (.fenced offset info '\x60' length 0 text.reverse) }

theorem head_of_fence {s info : List Char} {mark : Char} {length : Nat}
    (fence : Marker.fence? s = some (mark, length, info)) : s.head? = some mark := by
  cases s with
  | nil => simp [Marker.fence?] at fence
  | cons c rest =>
      unfold Marker.fence? at fence
      simp only at fence
      split at fence
      · cases fence
      · split at fence
        · obtain ⟨rfl, -⟩ := Prod.mk.inj (Option.some.inj fence)
          rfl
        · cases fence

theorem step_fence {s info : List Char} {length : Nat} (opener : Opener s)
    (fence : Marker.fence? s = some ('\x60', length, info)) (blocks : List Block) (offset : Nat)
    (ending : List Char) (next : List Line) :
    (between blocks).step ⟨offset, s, ending⟩ next
      = inFence blocks offset (String.ofList (Link.unescape (Text.strip isSpace info))) length
          [] := by
  have mark := head_of_fence fence
  obtain ⟨rest, rfl⟩ : ∃ rest, s = '\x60' :: rest := by
    cases s with
    | nil => cases mark
    | cons c rest =>
        obtain rfl : c = '\x60' := Option.some.inj mark
        exact ⟨rest, rfl⟩
  have noHtml : (Cursor.start ⟨offset, '\x60' :: rest, ending⟩).rest.head? ≠ some '<' := by
    simp [Cursor.start]
  have noRule : Marker.isRule ('\x60' :: rest) = false := by
    simp [Marker.isRule]
  have noHeading : Marker.heading? ('\x60' :: rest) = none := by
    simp [Marker.heading?]
  rw [step_opener opener, openLeaf_of_not_html noHtml]
  simp only [Cursor.start, noRule, noHeading, fence, Bool.false_eq_true, if_false]
  rfl

theorem Cursor.pass?_rest {c c' : Cursor} (passed : c.pass? = some c') : c'.rest <:+ c.rest := by
  unfold Cursor.pass? at passed
  split at passed
  · cases passed
    exact List.suffix_rfl
  · rename_i space
    cases passed
    rw [space]
    exact List.suffix_cons _ _
  · rename_i tab
    cases passed
    rw [tab]
    exact List.suffix_cons _ _
  · cases passed

theorem Cursor.indent_rest (n : Nat) (c : Cursor) : (c.indent n).2.rest <:+ c.rest := by
  induction n generalizing c with
  | zero => exact List.suffix_rfl
  | succ n ih =>
      rw [Cursor.indent]
      split
      · exact List.suffix_rfl
      · rename_i next passed
        exact (ih next).trans (Cursor.pass?_rest passed)

/-- A line no part of which closes the fence goes to the code. -/
theorem step_code {line : Line} {length : Nat}
    (inside : ∀ t, t <:+ line.chars → Marker.closesFence '\x60' length t = false)
    (blocks : List Block) (start : Nat) (info : String) (text : List Char) (next : List Line) :
    (inFence blocks start info length text).step line next
      = inFence blocks start info length (text ++ line.whole) := by
  have goes := inside _ (Cursor.indent_rest 4 (Cursor.start line))
  unfold State.step
  simp only [inFence, State.frames, List.map_nil, List.reverse_nil, continueFrames,
    Cursor.indent_zero, Nat.sub_zero, goes, Bool.false_eq_true, and_false, if_false,
    List.length_nil, decide_true,
    Bool.not_true]
  simp [Cursor.start, Cursor.text, Line.whole]

theorem step_fence_end {length : Nat} (long : 3 ≤ length) (blocks : List Block)
    (start offset : Nat) (info : String) (text ending : List Char) (next : List Line) :
    (inFence blocks start info length text).step ⟨offset, List.replicate length '\x60', ending⟩ next
      = between (.leaf (.code (some info) text) start :: blocks) := by
  obtain ⟨n, rfl⟩ : ∃ n, length = n + 1 := ⟨length - 1, by omega⟩
  have first : (List.replicate (n + 1) '\x60').head? = some '\x60' := rfl
  have closes : Marker.closesFence '\x60' (n + 1) (List.replicate (n + 1) '\x60') = true := by
    simp [Marker.closesFence]
  unfold State.step
  simp only [inFence, State.frames, List.map_nil, List.reverse_nil, continueFrames,
    Nat.sub_zero, Cursor.start, Cursor.indent_of_solid first rfl, closes, List.length_nil,
    decide_true, Bool.not_true, Bool.false_eq_true, if_false]
  simp [State.closeLeaf, State.add, between]

/-- Lines no part of which closes the fence go to the code, one after the other. -/
theorem readLines_code {lines : List Line} {length : Nat}
    (inside : ∀ line ∈ lines, ∀ t, t <:+ line.chars →
      Marker.closesFence '\x60' length t = false)
    (blocks : List Block) (start : Nat) (info : String) (text : List Char) (tail : List Line) :
    (inFence blocks start info length text).readLines (lines ++ tail)
      = (inFence blocks start info length (text ++ lines.flatMap Line.whole)).readLines tail := by
  induction lines generalizing text with
  | nil => simp
  | cons line lines ih =>
      obtain ⟨first, others⟩ := List.forall_mem_cons.1 inside
      rw [List.cons_append, readLines_cons rfl, step_code first, ih others, List.flatMap_cons,
        List.append_assoc]

/-- **A fenced body is read as it is.** -/
theorem readLines_fenced {s info : List Char} {content : List (List Char)} {length : Nat}
    (opener : Opener s) (fence : Marker.fence? s = some ('\x60', length, info)) (long : 3 ≤ length)
    (inside : ∀ s ∈ content, ∀ t, t <:+ s → Marker.closesFence '\x60' length t = false)
    (blocks : List Block) (offset : Nat) (tail : List Line) :
    (between blocks).readLines
        (linesAt offset (s :: (content ++ [List.replicate length '\x60'])) ++ tail)
      = (between (.leaf (.code (some (String.ofList (Link.unescape (Text.strip isSpace info))))
          (unlines content)) offset :: blocks)).readLines tail := by
  have unclosed : ∀ line ∈ linesAt (offset + Text.byteLength s + 1) content, ∀ t,
      t <:+ line.chars → Marker.closesFence '\x60' length t = false :=
    fun line member => inside line.chars (chars_of_mem_linesAt member)
  rw [linesAt, List.cons_append, readLines_cons rfl, step_fence opener fence, linesAt_append,
    List.append_assoc, readLines_code unclosed, flatMap_linesAt]
  simp only [linesAt, List.singleton_append]
  rw [readLines_cons rfl, step_fence_end long]
  simp

end PromptPipeline.Markdown
