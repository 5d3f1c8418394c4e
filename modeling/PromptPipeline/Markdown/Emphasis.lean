/-
# Markdown.Emphasis -- pairing the runs of asterisks and underscores

A run can open emphasis if text follows it and close it if text is before it.  A
closing run pairs with the nearest opening run of its mark; where a run can do both,
the two lengths may not add up to a multiple of three unless both are one.  Two
marks on each side are strong emphasis, a single one is emphasis, and what does not
pair is text.
-/
import PromptPipeline.Markdown.Event
import PromptPipeline.Unicode.Punctuation
import PromptPipeline.Text.Basic

namespace PromptPipeline.Markdown

set_option autoImplicit false

/-- A part of a paragraph: events that are settled, or a run of marks that may
open or close emphasis. -/
inductive Piece
  | events (settled : List Event)
  | run (mark : Char) (length : Nat) (opens closes : Bool)
deriving Repr, DecidableEq

namespace Emphasis

/-! ## Runs -/

/-- Whether a character is punctuation or a symbol. -/
def isPunctuation (c : Char) : Bool := Unicode.CodeSet.contains Unicode.punctuation c.toNat

/-- Whether a run can open emphasis between two characters.  An underscore does not
open it within a word. -/
def canOpen (mark before after : Char) : Bool :=
  !Unicode.isBlank after
    && (Unicode.isBlank before || isPunctuation before || (mark = '*' && !isPunctuation after))

/-- Whether a run can close emphasis between two characters. -/
def canClose (mark before after : Char) : Bool :=
  !Unicode.isBlank before
    && (Unicode.isBlank after || isPunctuation after || (mark = '*' && !isPunctuation before))

/-- A run between two characters. -/
def run (mark : Char) (length : Nat) (before after : Char) : Piece :=
  .run mark length (canOpen mark before after) (canClose mark before after)

/-! ## Pairs -/

/-- A run that waits for its pair: the marks left of it, its full length, whether it
could also close and the events before it. -/
structure Opener where
  mark : Char
  left : Nat
  length : Nat
  both : Bool
  before : List Event
deriving Repr, DecidableEq

/-- The runs that wait, innermost first, and the events since the innermost. -/
structure Pairing where
  openers : List Opener
  now : List Event
deriving Repr, DecidableEq

/-- Marks that are only text. -/
def literal (mark : Char) (n : Nat) : List Event := [.text (List.replicate n mark)]

/-- The events from before a run to now, with its marks as text. -/
def Opener.dissolve (o : Opener) (now : List Event) : List Event :=
  o.before ++ literal o.mark o.left ++ now

/-- Whether a closing run may pair with an opener. -/
def Opener.pairs (mark : Char) (length : Nat) (both : Bool) (o : Opener) : Bool :=
  o.mark = mark && ((!both && !o.both) || (length + o.length) % 3 ≠ 0 || length % 3 = 0)

/-- The innermost opener that satisfies `p`, those outside of it, and the events
since it. -/
def findOpener? (p : Opener → Bool) : List Opener → List Event →
    Option (Opener × List Opener × List Event)
  | [], _ => none
  | o :: outer, now =>
      if p o then some (o, outer, now) else findOpener? p outer (o.dissolve now)

/-- Events between `n` marks on each side. -/
def emphasize : Nat → List Event → List Event
  | 0, inner => inner
  | 1, inner => Event.wrap .emphasis 0 inner
  | n + 2, inner => emphasize n (Event.wrap .strong 0 inner)

/-- The marks of a closing run that are left, and what is open, after it has paired
as often as it can.  Every pair takes a mark and some fuel. -/
def closeRun (mark : Char) (length : Nat) (both : Bool) : Nat → Nat → Pairing → Nat × Pairing
  | 0, left, state => (left, state)
  | fuel + 1, left, state =>
      if left = 0 then (0, state)
      else
        match findOpener? (Opener.pairs mark length both) state.openers state.now with
        | none => (left, state)
        | some (o, outer, now) =>
            let n := min left o.left
            let inner := emphasize n now
            if n < o.left then
              closeRun mark length both fuel (left - n)
                ⟨{ o with left := o.left - n } :: outer, inner⟩
            else closeRun mark length both fuel (left - n) ⟨outer, o.before ++ inner⟩

/-- What is open after one more piece. -/
def step (state : Pairing) : Piece → Pairing
  | .events settled => { state with now := state.now ++ settled }
  | .run mark length opens closes =>
      let (left, state) :=
        if closes then closeRun mark length (opens && closes) length length state
        else (length, state)
      if left = 0 then state
      else if opens then
        ⟨⟨mark, left, length, opens && closes, state.now⟩ :: state.openers, []⟩
      else { state with now := state.now ++ literal mark left }

/-- The events of pieces, with all emphasis settled. -/
def settle (pieces : List Piece) : List Event :=
  let last := pieces.foldl step ⟨[], []⟩
  last.openers.foldl (fun now o => o.dissolve now) last.now

end Emphasis

end PromptPipeline.Markdown
