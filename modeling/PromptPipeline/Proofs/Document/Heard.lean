/-
# Proofs.Document.Heard -- what is heard of inline text

The events of inline text add to the text that is open and change nothing else
(`foldlM_tell`).  What they add depends on where the text stands: only prose keeps its
markup, and a heading loses the backticks of code spans.
-/
import PromptPipeline.Document.Extract

namespace PromptPipeline.Document

set_option autoImplicit false

open Markdown (Event)

/-- Where inline text stands. -/
inductive Context
  | heading
  | item
  | prose
deriving DecidableEq

namespace Context

/-- What is heard of markup. -/
def markup (context : Context) (s : String) : List Char :=
  if context = prose then s.toList else []

/-- What is heard of a code span. -/
def code (context : Context) (s : List Char) : List Char :=
  if context = heading then s else '\x60' :: (s ++ ['\x60'])

end Context

/-- What is heard of inline events where links to `targets` are open, innermost first;
nothing unless the events are inline and close all links. -/
def hear (context : Context) : List String → List Event → Option (List Char)
  | [], [] => some []
  | _ :: _, [] => none
  | targets, .text s :: rest => (hear context targets rest).map (s ++ ·)
  | targets, .code s :: rest => (hear context targets rest).map (context.code s ++ ·)
  | targets, .lineBreak :: rest => (hear context targets rest).map (['\n'] ++ ·)
  | targets, .enter .emphasis _ :: rest =>
      (hear context targets rest).map (context.markup "*" ++ ·)
  | targets, .leave .emphasis :: rest =>
      (hear context targets rest).map (context.markup "*" ++ ·)
  | targets, .enter .strong _ :: rest =>
      (hear context targets rest).map (context.markup "**" ++ ·)
  | targets, .leave .strong :: rest =>
      (hear context targets rest).map (context.markup "**" ++ ·)
  | targets, .enter (.link target) _ :: rest =>
      (hear context (target :: targets) rest).map (context.markup "[" ++ ·)
  | targets, .leave (.link _) :: rest =>
      (hear context targets.tail rest).map
        (context.markup ("](" ++ targets.head?.getD "" ++ ")") ++ ·)
  | targets, .enter .image _ :: rest => hear context targets rest
  | targets, .leave .image :: rest => hear context targets rest
  | _, _ :: _ => none

/-- **What is heard of a text**, without white space around it. -/
def spoken (context : Context) (text : List Char) : Option String :=
  (hear context [] (Markdown.Inline.events [] text)).map fun s =>
    String.ofList (Text.strip Unicode.isBlank s)

namespace Extraction

/-- Inline text is told in a context. -/
def IsIn (x : Extraction) : Context → Prop
  | .heading => x.heading.isSome
  | .item => x.heading = none ∧ x.code = none ∧ x.item.isSome
  | .prose => x.heading = none ∧ x.code = none ∧ x.item = none

/-- With links to `targets` open. -/
def linked (x : Extraction) (targets : List String) : Extraction := { x with targets := targets }

/-! ## Pushing -/

theorem linked_pushText (x : Extraction) (targets : List String) (s : List Char) :
    (x.linked targets).pushText s = (x.pushText s).linked targets := by
  unfold linked pushText
  dsimp only
  split
  · rfl
  · rfl
  · rfl
  · rfl

theorem pushText_nil (x : Extraction) : x.pushText [] = x := by
  unfold pushText
  split
  · rename_i heading
    simp [← heading]
  · rename_i code
    simp [← code]
  · rename_i item
    simp [← item]
  · simp

theorem pushText_pushText (x : Extraction) (s t : List Char) :
    (x.pushText s).pushText t = x.pushText (s ++ t) := by
  rcases x with ⟨_, _, _, _, heading, code, item, _, _, _, _, _⟩
  cases heading with
  | some heading => simp [pushText]
  | none =>
      cases code with
      | some code => simp [pushText]
      | none =>
          cases item with
          | some item => simp [pushText]
          | none => simp [pushText]

theorem IsIn.pushText {x : Extraction} {context : Context} (isIn : x.IsIn context)
    (s : List Char) : (x.pushText s).IsIn context := by
  rcases x with ⟨_, _, _, _, heading, code, item, _, _, _, _, _⟩
  cases context with
  | heading =>
      obtain ⟨heading, rfl⟩ := Option.isSome_iff_exists.1 isIn
      rfl
  | item =>
      obtain ⟨rfl, rfl, isSome⟩ := isIn
      obtain ⟨item, rfl⟩ := Option.isSome_iff_exists.1 isSome
      exact ⟨rfl, rfl, rfl⟩
  | prose =>
      obtain ⟨rfl, rfl, rfl⟩ := isIn
      exact ⟨rfl, rfl, rfl⟩

theorem IsIn.linked {x : Extraction} {context : Context} (isIn : x.IsIn context)
    (targets : List String) : (x.linked targets).IsIn context := by
  cases context with
  | heading => exact isIn
  | item => exact isIn
  | prose => exact isIn

theorem IsIn.pushMarkup {x : Extraction} {context : Context} (isIn : x.IsIn context) (s : String) :
    x.pushMarkup s = x.pushText (context.markup s) := by
  cases context with
  | heading =>
      rw [show Context.heading.markup s = [] from rfl, pushText_nil]
      unfold Extraction.pushMarkup
      have someHeading : x.heading.isSome = true := isIn
      simp [Option.isNone_iff_eq_none, Option.isSome_iff_ne_none.1 someHeading]
  | item =>
      obtain ⟨-, -, someItem⟩ := isIn
      rw [show Context.item.markup s = [] from rfl, pushText_nil]
      unfold Extraction.pushMarkup
      simp [Option.isNone_iff_eq_none, Option.isSome_iff_ne_none.1 someItem]
  | prose =>
      obtain ⟨noHeading, noCode, noItem⟩ := isIn
      simp [Extraction.pushMarkup, Extraction.pushText, Context.markup, noHeading, noCode, noItem]

theorem IsIn.pushCode {x : Extraction} {context : Context} (isIn : x.IsIn context)
    (s : List Char) : x.pushCode s = x.pushText (context.code s) := by
  unfold Extraction.pushCode Context.code
  cases context with
  | heading =>
      have someHeading : x.heading.isSome = true := isIn
      simp [someHeading]
  | item => simp [isIn.1]
  | prose => simp [isIn.1]

/-! ## Inline events -/

/-- **Inline events push what is heard of them.** -/
theorem foldlM_tell (source : List Char) (starts : List Nat) {context : Context}
    {targets : List String} {events : List Event} {x : Extraction} (isIn : x.IsIn context)
    {text : List Char} (heard : hear context targets events = some text) :
    events.foldlM (tell source starts) (x.linked targets)
      = .ok ((x.pushText text).linked []) := by
  -- Every event pushes some text and may open or close a link.
  have step {x : Extraction} {event : Event} {rest : List Event} {targets targets' : List String}
      {s text : List Char} (isIn : x.IsIn context)
      (first : (x.linked targets).tell source starts event = .ok ((x.pushText s).linked targets'))
      (ih : ∀ {x : Extraction} (_ : x.IsIn context) {text : List Char}
        (_ : hear context targets' rest = some text),
        rest.foldlM (tell source starts) (x.linked targets') = .ok ((x.pushText text).linked []))
      (heard : (hear context targets' rest).map (s ++ ·) = some text) :
      (event :: rest).foldlM (tell source starts) (x.linked targets)
        = .ok ((x.pushText text).linked []) := by
    obtain ⟨behind, there, rfl⟩ := Option.map_eq_some_iff.1 heard
    rw [List.foldlM_cons, first]
    refine (ih (isIn.pushText s) there).trans ?_
    rw [pushText_pushText]
  fun_induction hear context targets events generalizing x text with
  | case1 =>
      cases heard
      rw [pushText_nil]
      rfl
  | case2 => cases heard
  | case3 targets s rest ih =>
      refine step isIn ?_ ih heard
      rw [← linked_pushText]
      rfl
  | case4 targets s rest ih =>
      refine step isIn ?_ ih heard
      rw [← linked_pushText, ← (isIn.linked targets).pushCode]
      rfl
  | case5 targets rest ih =>
      refine step isIn ?_ ih heard
      rw [← linked_pushText]
      rfl
  | case6 targets _ rest ih | case7 targets rest ih | case8 targets _ rest ih
  | case9 targets rest ih =>
      refine step isIn ?_ ih heard
      rw [← linked_pushText, ← (isIn.linked targets).pushMarkup]
      rfl
  | case10 targets target _ rest ih =>
      refine step isIn ?_ ih heard
      rw [← linked_pushText, ← (isIn.linked (target :: targets)).pushMarkup]
      rfl
  | case11 targets _ rest ih =>
      refine step isIn ?_ ih heard
      rw [← linked_pushText, ← (isIn.linked targets.tail).pushMarkup]
      rfl
  | case12 targets _ rest ih | case13 targets rest ih => exact ih isIn heard
  | case14 => cases heard

end Extraction

end PromptPipeline.Document
