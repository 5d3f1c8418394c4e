/-
# Proofs.Document.Inlines -- the text of a block holds no block

The events of the text of a block are nested constructs that may stand in a paragraph
(`isInline_events`), whatever the text is: brackets and runs of marks wait on stacks until
they are closed or turn out to be text, and what is between is inline all along.  So all of
a text is heard (`exists_spoken`).
-/
import PromptPipeline.Proofs.Document.Outline

namespace PromptPipeline.Document

set_option autoImplicit false

open Markdown (Event Piece Tag)
open Markdown.Emphasis (Opener Pairing)
open Markdown.Inline (Bracket Reading)

/-- Events of texts and constructs that may stand in a paragraph. -/
def IsInline (events : List Event) : Prop :=
  ∃ t : Nested, t.fits .inlines = true ∧ t.events = events

namespace IsInline

theorem nil : IsInline [] := ⟨.done, rfl, rfl⟩

theorem text (chars : List Char) : IsInline [.text chars] := ⟨.text chars .done, rfl, rfl⟩

theorem code (chars : List Char) : IsInline [.code chars] := ⟨.code chars .done, rfl, rfl⟩

theorem lineBreak : IsInline [.lineBreak] := ⟨.lineBreak .done, rfl, rfl⟩

theorem append {a b : List Event} (first : IsInline a) (second : IsInline b) :
    IsInline (a ++ b) := by
  obtain ⟨t, fits, rfl⟩ := first
  induction t with
  | done => exact second
  | text chars rest ih =>
      obtain ⟨u, fitsBoth, both⟩ := ih (by simpa [Nested.fits, Content.allowsText] using fits)
      exact ⟨.text chars u, fitsBoth, by simp [Nested.events, both]⟩
  | code chars rest ih =>
      obtain ⟨u, fitsBoth, both⟩ := ih (by simpa [Nested.fits, Content.allowsSpans] using fits)
      exact ⟨.code chars u, fitsBoth, by simp [Nested.events, both]⟩
  | lineBreak rest ih =>
      obtain ⟨u, fitsBoth, both⟩ := ih (by simpa [Nested.fits, Content.allowsSpans] using fits)
      exact ⟨.lineBreak u, fitsBoth, by simp [Nested.events, both]⟩
  | within tag offset inner rest _ ih =>
      simp only [Nested.fits, Bool.and_eq_true] at fits
      obtain ⟨u, fitsBoth, both⟩ := ih fits.2
      exact ⟨.within tag offset inner u, by simp [Nested.fits, fits.1, fitsBoth],
        by simp [Nested.events, both]⟩

theorem wrap {tag : Tag} (allowed : Content.inlines.allows tag = true) (offset : Nat)
    {inner : List Event} (isInline : IsInline inner) :
    IsInline (Event.wrap tag offset inner) := by
  obtain ⟨t, fits, rfl⟩ := isInline
  have within : Content.of tag = .inlines := by cases tag <;> first | rfl | cases allowed
  exact ⟨.within tag offset t .done, by simp [Nested.fits, allowed, within, fits],
    by simp [Nested.events]⟩

/-! ## Runs of marks -/

theorem literal (mark : Char) (n : Nat) : IsInline (Markdown.Emphasis.literal mark n) := text _

theorem dissolve {o : Opener} {now : List Event} (before : IsInline o.before)
    (isInline : IsInline now) : IsInline (o.dissolve now) :=
  (before.append (literal o.mark o.left)).append isInline

theorem emphasize (n : Nat) {inner : List Event} (isInline : IsInline inner) :
    IsInline (Markdown.Emphasis.emphasize n inner) := by
  fun_induction Markdown.Emphasis.emphasize n inner with
  | case1 => exact isInline
  | case2 => exact wrap rfl 0 isInline
  | case3 n inner ih => exact ih (wrap rfl 0 isInline)

end IsInline

/-- What stands before and behind the runs that wait is inline. -/
structure SoundPairing (state : Pairing) : Prop where
  waiting : ∀ o ∈ state.openers, IsInline o.before
  now : IsInline state.now

/-- A part of a paragraph is inline if it is settled. -/
def SoundPiece : Piece → Prop
  | .events settled => IsInline settled
  | .run .. => True

namespace SoundPairing

theorem empty : SoundPairing ⟨[], []⟩ := ⟨fun _ => nofun, .nil⟩

theorem findOpener? {p : Opener → Bool} {openers outer : List Opener}
    {now behind : List Event} {o : Opener} (sound : SoundPairing ⟨openers, now⟩)
    (found : Markdown.Emphasis.findOpener? p openers now = some (o, outer, behind)) :
    IsInline o.before ∧ SoundPairing ⟨outer, behind⟩ := by
  induction openers generalizing now with
  | nil => cases found
  | cons first openers ih =>
      obtain ⟨here, others⟩ := List.forall_mem_cons.1 sound.waiting
      rw [Markdown.Emphasis.findOpener?] at found
      split at found
      · cases found
        exact ⟨here, others, sound.now⟩
      · exact ih ⟨others, here.dissolve sound.now⟩ found

theorem closeRun (mark : Char) (length : Nat) (both : Bool) (fuel left : Nat)
    {state : Pairing} (sound : SoundPairing state) :
    SoundPairing (Markdown.Emphasis.closeRun mark length both fuel left state).2 := by
  induction fuel generalizing left state with
  | zero => exact sound
  | succ fuel ih =>
      rw [Markdown.Emphasis.closeRun]
      split
      · exact sound
      · split
        · exact sound
        · rename_i o outer now found
          obtain ⟨before, waiting, isInline⟩ := sound.findOpener? found
          dsimp only
          split
          · exact ih _ ⟨List.forall_mem_cons.2 ⟨before, waiting⟩, isInline.emphasize _⟩
          · exact ih _ ⟨waiting, before.append (isInline.emphasize _)⟩

theorem step {state : Pairing} (sound : SoundPairing state) {piece : Piece}
    (soundPiece : SoundPiece piece) : SoundPairing (Markdown.Emphasis.step state piece) := by
  cases piece with
  | events settled => exact ⟨sound.waiting, sound.now.append soundPiece⟩
  | run mark length opens closes =>
      -- a run that closes nothing is a run that has closed as often as it can
      have paired : ∃ left state', SoundPairing state' ∧
          (if closes then
            Markdown.Emphasis.closeRun mark length (opens && closes) length length state
          else (length, state)) = (left, state') := by
        split
        · exact ⟨_, _, sound.closeRun mark length (opens && closes) length length, rfl⟩
        · exact ⟨_, _, sound, rfl⟩
      obtain ⟨left, state', sound', same⟩ := paired
      rw [Markdown.Emphasis.step, same]
      dsimp only
      split
      · exact sound'
      · split
        · exact ⟨List.forall_mem_cons.2 ⟨sound'.now, sound'.waiting⟩, .nil⟩
        · exact ⟨sound'.waiting, sound'.now.append (.literal mark left)⟩

theorem foldl_step {pieces : List Piece} (soundPieces : ∀ piece ∈ pieces, SoundPiece piece)
    {state : Pairing} (sound : SoundPairing state) :
    SoundPairing (pieces.foldl Markdown.Emphasis.step state) := by
  induction pieces generalizing state with
  | nil => exact sound
  | cons piece pieces ih =>
      obtain ⟨first, others⟩ := List.forall_mem_cons.1 soundPieces
      exact ih others (sound.step first)

theorem dissolve {openers : List Opener} {now : List Event}
    (sound : SoundPairing ⟨openers, now⟩) :
    IsInline (openers.foldl (fun now o => o.dissolve now) now) := by
  induction openers generalizing now with
  | nil => exact sound.now
  | cons o openers ih =>
      obtain ⟨first, others⟩ := List.forall_mem_cons.1 sound.waiting
      exact ih ⟨others, first.dissolve sound.now⟩

end SoundPairing

/-- **Settled emphasis is inline.** -/
theorem isInline_settle {pieces : List Piece} (sound : ∀ piece ∈ pieces, SoundPiece piece) :
    IsInline (Markdown.Emphasis.settle pieces) :=
  (SoundPairing.foldl_step sound SoundPairing.empty).dissolve

/-! ## Brackets -/

/-- What stands before and behind the brackets that wait is inline, as far as it is settled. -/
structure SoundReading (r : Reading) : Prop where
  waiting : ∀ b ∈ r.brackets, ∀ piece ∈ b.before, SoundPiece piece
  pieces : ∀ piece ∈ r.pieces, SoundPiece piece

namespace SoundReading

variable {r : Reading} {b : Bracket} {outer : List Bracket}

theorem empty : SoundReading {} := ⟨fun _ => nofun, fun _ => nofun⟩

theorem push (sound : SoundReading r) {piece : Piece} (soundPiece : SoundPiece piece) :
    SoundReading (r.push piece) :=
  ⟨sound.waiting, List.forall_mem_cons.2 ⟨soundPiece, sound.pieces⟩⟩

theorem pushText (sound : SoundReading r) (s : List Char) : SoundReading (r.pushText s) :=
  sound.push (IsInline.text s)

theorem openBracket (sound : SoundReading r) (isImage : Bool) (behind : List Char) :
    SoundReading (r.openBracket isImage behind) :=
  ⟨List.forall_mem_cons.2 ⟨sound.pieces, sound.waiting⟩, nofun⟩

/-- A bracket that opens nothing leaves the pieces on its sides, and itself as text. -/
theorem literal_append (sound : SoundReading r) (before : ∀ piece ∈ b.before, SoundPiece piece) :
    ∀ piece ∈ r.pieces ++ b.literal :: b.before, SoundPiece piece := by
  intro piece member
  rcases List.mem_append.1 member with inside | member
  · exact sound.pieces piece inside
  · rcases List.mem_cons.1 member with rfl | outside
    · exact IsInline.text _
    · exact before piece outside

theorem dissolveLink (sound : SoundReading r) (waits : r.brackets = b :: outer) :
    SoundReading (r.dissolveLink b outer) := by
  have waiting := sound.waiting
  rw [waits] at waiting
  obtain ⟨before, others⟩ := List.forall_mem_cons.1 waiting
  exact ⟨others, List.forall_mem_cons.2 ⟨IsInline.text _, sound.literal_append before⟩⟩

theorem finishLink (sound : SoundReading r) (waits : r.brackets = b :: outer)
    (target : List Char) : SoundReading (r.finishLink b outer target) := by
  have waiting := sound.waiting
  rw [waits] at waiting
  obtain ⟨before, others⟩ := List.forall_mem_cons.1 waiting
  have inner : IsInline (Markdown.Emphasis.settle r.pieces.reverse) :=
    isInline_settle fun piece member => sound.pieces piece (List.mem_reverse.1 member)
  refine ⟨?_, List.forall_mem_cons.2 ⟨?_, before⟩⟩
  · dsimp only [Reading.finishLink]
    split
    · exact others
    · intro c member
      obtain ⟨d, there, rfl⟩ := List.mem_map.1 member
      split
      · exact others d there
      · exact others d there
  · refine inner.wrap ?_ 0
    split
    · rfl
    · rfl

theorem closeBracket (sound : SoundReading r) (definitions : List Markdown.Link.Definition)
    (rest : List Char) : SoundReading (Markdown.Inline.closeBracket definitions r rest).1 := by
  unfold Markdown.Inline.closeBracket
  split
  · exact sound.pushText _
  · rename_i b outer waits
    split
    · exact sound.dissolveLink waits
    · split
      · exact sound.finishLink waits _
      · split
        · exact sound.finishLink waits _
        · exact ⟨(sound.dissolveLink waits).waiting, (sound.dissolveLink waits).pieces⟩
        · exact sound.dissolveLink waits

theorem finish (sound : SoundReading r) : ∀ piece ∈ r.finish, SoundPiece piece := by
  rcases r with ⟨brackets, pieces, spent⟩
  intro piece member
  replace member := List.mem_reverse.1 member
  dsimp only at member
  induction brackets generalizing pieces with
  | nil => exact sound.pieces piece member
  | cons b brackets ih =>
      obtain ⟨before, others⟩ := List.forall_mem_cons.1 sound.waiting
      exact ih _ ⟨others, sound.literal_append before⟩ member

/-- A further character adds what is inline, opens a bracket or closes one. -/
theorem read (sound : SoundReading r) (definitions : List Markdown.Link.Definition) (fuel : Nat)
    (before : Char) (s : List Char) :
    SoundReading (Markdown.Inline.read definitions fuel r before s) := by
  fun_induction Markdown.Inline.read definitions fuel r before s with
  | case1 | case2 => exact sound
  | case3 | case4 =>
      rename_i ih
      exact ih (sound.push IsInline.lineBreak)
  | case5 | case6 | case8 | case9 | case11 | case14 | case16 | case19 =>
      rename_i ih
      exact ih (sound.pushText _)
  | case7 => exact sound.pushText _
  | case10 =>
      rename_i ih
      exact ih (sound.push (IsInline.code _))
  | case12 =>
      rename_i ih
      exact ih (sound.push ((IsInline.text _).wrap rfl 0))
  | case13 =>
      rename_i ih
      exact ih sound
  | case15 | case17 =>
      rename_i ih
      exact ih (sound.openBracket _ _)
  | case18 _ _ _ rest closed _ same ih =>
      have closes := sound.closeBracket definitions rest
      rw [same] at closes
      exact ih closes
  | case20 _ _ _ _ _ marks =>
      rename_i ih
      rw [if_pos marks]
      exact ih (sound.push True.intro)
  | case21 _ _ _ _ _ noMarks space _ _ ends =>
      rename_i ih
      rw [if_neg noMarks, if_pos space]
      dsimp only
      rw [if_pos ends]
      exact ih sound
  | case22 _ _ _ _ _ noMarks space _ _ goesOn =>
      rename_i ih
      rw [if_neg noMarks, if_pos space]
      dsimp only
      rw [if_neg goesOn]
      exact ih (sound.pushText _)
  | case23 _ _ _ _ _ noMarks noSpace =>
      rename_i ih
      rw [if_neg noMarks, if_neg noSpace]
      exact ih (sound.pushText _)

end SoundReading

/-- **The events of a text are inline.** -/
theorem isInline_events (definitions : List Markdown.Link.Definition) (text : List Char) :
    IsInline (Markdown.Inline.events definitions text) :=
  isInline_settle (SoundReading.empty.read definitions text.length ' ' text).finish

/-- **All of a text is heard.** -/
theorem exists_spoken (context : Context) (text : List Char) :
    ∃ said, spoken context text = some said := by
  obtain ⟨t, fits, same⟩ := isInline_events [] text
  obtain ⟨heard, -, hears⟩ := Nested.hear_inlines context fits
  have all := hears [] []
  rw [List.append_nil, same, hear] at all
  exact ⟨_, congrArg (Option.map _) all⟩

end PromptPipeline.Document
