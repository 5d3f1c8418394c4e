/-
# Proofs.Document.Layout -- blocks that are laid out from chunks

Blocks that are written from groups of chunks, joined by blank lines, are read as these
chunks, and the document is what the chunks tell (`ofSource_blocks`).
-/
import PromptPipeline.Proofs.Document.Told
import PromptPipeline.Proofs.Text.Split

namespace PromptPipeline.Document

set_option autoImplicit false

open Markdown (Chunk layout unlines)

/-! ## Blocks -/

/-- The block that is written from a group of chunks. -/
def block (group : List Chunk) : String := String.ofList (Text.joinWith ['\n'] (layout group))

theorem lines_ne_nil (c : Chunk) : c.lines ≠ [] := by
  cases c with
  | heading | paragraph | items | code => exact List.cons_ne_nil _ _

theorem layout_ne_nil (chunks : List Chunk) : layout chunks ≠ [] := by
  cases chunks with
  | nil => exact List.cons_ne_nil _ _
  | cons c rest =>
      cases rest with
      | nil => exact lines_ne_nil c
      | cons d rest => exact List.append_ne_nil_of_left_ne_nil (lines_ne_nil c) _

theorem layout_append {a b : List Chunk} (left : a ≠ []) (right : b ≠ []) :
    layout (a ++ b) = layout a ++ [] :: layout b := by
  induction a with
  | nil => exact absurd rfl left
  | cons c a ih =>
      cases a with
      | nil =>
          obtain ⟨d, rest, rfl⟩ := List.exists_cons_of_ne_nil right
          rfl
      | cons d a =>
          have rest := ih (List.cons_ne_nil _ _)
          rw [List.cons_append] at rest
          rw [List.cons_append, List.cons_append, Markdown.layout_cons_cons, rest,
            Markdown.layout_cons_cons, List.append_assoc, List.cons_append]

theorem unlines_eq_joinWith {lines : List (List Char)} (filled : lines ≠ []) :
    unlines lines = Text.joinWith ['\n'] lines ++ ['\n'] := by
  induction lines with
  | nil => exact absurd rfl filled
  | cons first lines ih =>
      cases lines with
      | nil => simp [Text.joinWith]
      | cons second lines =>
          rw [Markdown.unlines_cons, ih (List.cons_ne_nil _ _), Text.joinWith_cons_cons]
          simp

/-- Blocks joined by blank lines are the lines of all their chunks. -/
theorem joinWith_blocks {groups : List (List Chunk)} (filled : ∀ g ∈ groups, g ≠ [])
    (nonempty : groups ≠ []) :
    Text.joinWith ['\n', '\n'] (groups.map fun g => Text.joinWith ['\n'] (layout g))
      = Text.joinWith ['\n'] (layout groups.flatten) := by
  induction groups with
  | nil => exact absurd rfl nonempty
  | cons g groups ih =>
      obtain ⟨here, others⟩ := List.forall_mem_cons.1 filled
      cases groups with
      | nil => simp [Text.joinWith]
      | cons g' groups =>
          have rest : (g' :: groups).flatten ≠ [] := by
            obtain ⟨c, g'', is⟩ := List.exists_cons_of_ne_nil (others g' List.mem_cons_self)
            rw [is, List.flatten_cons]
            exact List.cons_ne_nil _ _
          have later := ih others (List.cons_ne_nil _ _)
          rw [List.map_cons] at later
          have all : (g :: g' :: groups).flatten = g ++ (g' :: groups).flatten := rfl
          rw [List.map_cons, List.map_cons, Text.joinWith_cons_cons, later, all,
            layout_append here rest,
            Text.joinWith_append _ (layout_ne_nil g) (List.cons_ne_nil _ _)]
          obtain ⟨line, lines, is⟩ := List.exists_cons_of_ne_nil
            (layout_ne_nil (g' :: groups).flatten)
          rw [is, Text.joinWith_cons_cons]
          simp

/-- **The text of blocks is laid out from their chunks.** -/
theorem toList_join_blocks {groups : List (List Chunk)} (filled : ∀ g ∈ groups, g ≠ []) :
    Text.join "\n\n" (groups.map block) ++ "\n"
      = String.ofList (unlines (layout groups.flatten)) := by
  have blocks : (groups.map block).map String.toList
      = groups.map fun g => Text.joinWith ['\n'] (layout g) := by
    rw [List.map_map]
    exact List.map_congr_left fun g _ => String.toList_ofList
  have separator : "\n\n".toList = ['\n', '\n'] := rfl
  rw [Text.join, blocks, separator]
  by_cases none : groups = []
  · subst none
    rfl
  · rw [joinWith_blocks filled none, unlines_eq_joinWith (layout_ne_nil _), String.ofList_append]

/-! ## Reading the blocks -/

/-- What has been told where the document ends gives the document. -/
def Told.Gives (t : Told) (d : Document) : Prop :=
  t.title = d.title ∧ t.before.reverse ++ [t.described] = d.head :: d.templates

theorem Extraction.finish_rest {t : Told} {d : Document} (gives : t.Gives d) (source : List Char)
    (line start : Nat) : (t.rest line start).finish source = .ok d := by
  have described : ((t.rest line start).describe).current = t.described := by
    unfold describe Told.described Told.rest
    dsimp only
    split
    · rfl
    · rfl
  have same : (t.rest line start).describe.before = t.before
      ∧ (t.rest line start).describe.title = t.title := by
    unfold describe Told.rest
    dsimp only
    split
    · exact ⟨rfl, rfl⟩
    · exact ⟨rfl, rfl⟩
  have flushed : (t.rest line start).flush source = .ok (t.rest line start) := rfl
  obtain ⟨title, are⟩ := gives
  unfold finish
  rw [flushed]
  dsimp only [bind, Except.bind]
  rw [described, same.1, same.2, are, title]
  rfl

/-- **A document is what its chunks tell.** -/
theorem ofSource_blocks {groups : List (List Chunk)} (filled : ∀ g ∈ groups, g ≠ [])
    (sound : ∀ c ∈ groups.flatten, c.Sound) (apart : Markdown.Apart groups.flatten)
    {P : Document → Prop} (tells : Tells groups.flatten {} fun t => ∃ d, t.Gives d ∧ P d) :
    ∃ d, ofSource (Text.join "\n\n" (groups.map block) ++ "\n") = .ok d ∧ P d := by
  have source : (Text.join "\n\n" (groups.map block) ++ "\n").toList
      = unlines (layout groups.flatten) := by
    rw [toList_join_blocks filled, String.toList_ofList]
  have stand : Stand (unlines (layout groups.flatten)) 0 groups.flatten := stand_layout _ []
  obtain ⟨t, line, start, told, d, gives, holds⟩ := tells _ _ stand 1 0
  refine ⟨d, ?_, holds⟩
  unfold ofSource ofEvents Markdown.events
  rw [source, toList_join_blocks filled, Markdown.ofSource_layout sound apart,
    Markdown.Tree.events, Markdown.eventsOf_blocksAt]
  have first : ({} : Extraction) = ({} : Told).rest 1 0 := rfl
  rw [first, told]
  exact Extraction.finish_rest gives (unlines (layout groups.flatten)) line start

end PromptPipeline.Document
