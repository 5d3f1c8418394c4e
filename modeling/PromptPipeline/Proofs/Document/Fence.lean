/-
# Proofs.Document.Fence -- a body that can not close its fence

What is counted while a body is read is its longest run of backticks, where a run that has just
been read goes on in what follows (`infix_longestRun`, `isGreatest_longestRun`).  A fence is
longer than that, so no line of the body is a closing fence (`IsClosing`), and none is one for
the reader: behind the opening line every line goes to the code, up to the fence at the end,
which alone closes the block (`readLines_body`).
-/
import PromptPipeline.Proofs.Compile.Printable
import PromptPipeline.Proofs.Document.Escape
import PromptPipeline.Proofs.Markdown.Leaves
import Mathlib.Order.Bounds.Defs

namespace PromptPipeline

set_option autoImplicit false

/-! ## Lines of a source -/

namespace Markdown

variable {offset : Nat} {line s : List Char}

theorem splitLines_return (noFeed : ∀ rest, s ≠ '\n' :: rest) (offset : Nat) (line : List Char) :
    splitLines offset line ('\r' :: s)
      = ⟨offset, line.reverse, ['\r']⟩
        :: splitLines (offset + Text.byteLength line + 1) [] s := by
  rw [splitLines]
  exact noFeed

/-- The lines up to a line feed and those behind it.  Behind a carriage return it ends the same
line as that. -/
theorem splitLines_append_feed (offset : Nat) (line s rest : List Char) :
    ∃ offset', splitLines offset line (s ++ '\n' :: rest)
      = splitLines offset line (s ++ ['\n']) ++ splitLines offset' [] rest := by
  fun_induction splitLines offset line s with
  | case1 offset line => exact ⟨_, rfl⟩
  | case2 offset line => exact ⟨_, rfl⟩
  | case3 offset line s ih =>
      obtain ⟨offset', is⟩ := ih
      exact ⟨offset', by simp only [List.cons_append, splitLines, is]⟩
  | case4 offset line s ih =>
      obtain ⟨offset', is⟩ := ih
      exact ⟨offset', by simp only [List.cons_append, splitLines, is]⟩
  | case5 offset line s noFeed ih =>
      cases s with
      -- The line feed that comes next and the carriage return end one line together.
      | nil => exact ⟨_, rfl⟩
      | cons d s =>
          obtain ⟨offset', is⟩ := ih
          have other : d ≠ '\n' := fun feed => noFeed s (feed ▸ rfl)
          have stays (more : List Char) : ∀ rest, d :: s ++ more ≠ '\n' :: rest :=
            fun _ same => other (List.cons.inj same).1
          refine ⟨offset', ?_⟩
          show splitLines offset line ('\r' :: (d :: s ++ '\n' :: rest))
            = splitLines offset line ('\r' :: (d :: s ++ ['\n'])) ++ _
          rw [splitLines_return (stays _), splitLines_return (stays _), is]
          rfl
  | case6 offset line c s noFeed _ noReturn ih =>
      obtain ⟨offset', is⟩ := ih
      refine ⟨offset', ?_⟩
      rw [List.cons_append, List.cons_append, splitLines_cons noFeed noReturn,
        splitLines_cons noFeed noReturn, is]

theorem isLine_nil : IsLine [] := ⟨List.not_mem_nil, List.not_mem_nil⟩

/-- A line is a part of its source without a line end. -/
theorem chars_of_mem_splitLines (isLine : IsLine line) {l : Line}
    (member : l ∈ splitLines offset line s) :
    IsLine l.chars ∧ l.chars <:+: line.reverse ++ s := by
  have here {line : List Char} (isLine : IsLine line) (s : List Char) :
      IsLine line.reverse ∧ line.reverse <:+: line.reverse ++ s :=
    ⟨isLine.of_subset fun _ => List.mem_reverse.1, (List.prefix_append _ _).isInfix⟩
  fun_induction splitLines offset line s with
  | case1 offset line => cases member
  | case2 offset line =>
      obtain rfl := List.mem_singleton.1 member
      exact here isLine []
  | case3 offset line s ih =>
      rcases List.mem_cons.1 member with rfl | later
      · exact here isLine _
      · obtain ⟨plain, inside⟩ := ih isLine_nil later
        have behind := (List.suffix_cons '\n' s).trans (List.suffix_append line.reverse _)
        exact ⟨plain, inside.trans behind.isInfix⟩
  | case4 offset line s ih =>
      rcases List.mem_cons.1 member with rfl | later
      · exact here isLine _
      · obtain ⟨plain, inside⟩ := ih isLine_nil later
        have behind := (List.suffix_append ['\r', '\n'] s).trans
          (List.suffix_append line.reverse _)
        exact ⟨plain, inside.trans behind.isInfix⟩
  | case5 offset line s noFeed ih =>
      rcases List.mem_cons.1 member with rfl | later
      · exact here isLine _
      · obtain ⟨plain, inside⟩ := ih isLine_nil later
        have behind := (List.suffix_cons '\r' s).trans (List.suffix_append line.reverse _)
        exact ⟨plain, inside.trans behind.isInfix⟩
  | case6 offset line c s noFeed _ noReturn ih =>
      have grown : IsLine (c :: line) :=
        ⟨fun inside => (List.mem_cons.1 inside).elim (noFeed ∘ Eq.symm) isLine.1,
          fun inside => (List.mem_cons.1 inside).elim (noReturn ∘ Eq.symm) isLine.2⟩
      have found := ih grown member
      rwa [List.reverse_cons, List.append_assoc, List.singleton_append] at found

/-- The line feed behind a text is no part of its lines. -/
theorem infix_of_mem_splitLines {l : Line} (member : l ∈ splitLines offset [] (s ++ ['\n'])) :
    l.chars <:+: s := by
  obtain ⟨isLine, inside⟩ := chars_of_mem_splitLines isLine_nil member
  rw [List.reverse_nil, List.nil_append, List.infix_concat_iff] at inside
  rcases inside with ends | within
  · rcases List.suffix_concat_iff.1 ends with none | ⟨t, is, -⟩
    · rw [none]
      exact List.nil_infix
    · exact absurd (is ▸ List.mem_append_right t List.mem_cons_self) isLine.1
  · exact within

end Markdown

namespace Document

open Markdown (splitLines inFence between)

variable {s : List Char} {content : String}

/-! ## The longest run -/

/-- **The run that is counted stands in the text**, or in the run that has just been read and
what follows it. -/
theorem infix_longestRun (run : Nat) (s : List Char) :
    List.replicate (longestRun run s) '\x60' <:+: List.replicate run '\x60' ++ s := by
  induction s generalizing run with
  | nil =>
      rw [longestRun]
      exact (List.prefix_append _ _).isInfix
  | cons c s ih =>
      rw [longestRun]
      split
      · rename_i tick
        subst tick
        have longer := ih (run + 1)
        rwa [List.replicate_succ', List.append_assoc, List.singleton_append] at longer
      · rcases Nat.le_total (longestRun 0 s) run with le | le
        · rw [Nat.max_eq_left le]
          exact (List.prefix_append _ _).isInfix
        · rw [Nat.max_eq_right le]
          have later := (ih 0).trans (List.suffix_cons c s).isInfix
          exact later.trans (List.suffix_append _ _).isInfix

/-- **What is counted is the length of the longest run of backticks.** -/
theorem isGreatest_longestRun (s : List Char) :
    IsGreatest {n | List.replicate n '\x60' <:+: s} (longestRun 0 s) := by
  refine ⟨infix_longestRun 0 s, fun n inside => ?_⟩
  have all : (List.replicate n '\x60').takeWhile (· = '\x60') = List.replicate n '\x60' :=
    List.takeWhile_replicate_eq_filter .. |>.trans (by simp)
  have counted := run_le_longestRun inside
  rwa [all, List.length_replicate] at counted

/-! ## Closing lines -/

/-- A line that closes a block of code whose fence has `length` backticks: at most three
spaces, at least as many backticks, and nothing but spaces behind them. -/
def IsClosing (length : Nat) (line : List Char) : Prop :=
  ∃ indent run behind, indent ≤ 3 ∧ length ≤ run
    ∧ line = List.replicate indent ' ' ++ List.replicate run '\x60' ++ List.replicate behind ' '

theorem length_fence (content : String) :
    (fence content).length = max (longestRun 0 content.toList + 1) 3 := by
  rw [fence, String.length_ofList, List.length_replicate]

theorem toList_fence (content : String) :
    (fence content).toList = List.replicate (fence content).length '\x60' := by
  rw [length_fence, fence, String.toList_ofList]

/-- **No part of a body closes its block.** -/
theorem not_isClosing_of_infix {line : List Char} (inside : line <:+: content.toList) :
    ¬IsClosing (fence content).length line := by
  rintro ⟨indent, run, behind, -, long, rfl⟩
  have part : List.replicate run '\x60' <:+: content.toList :=
    (List.infix_append _ _ _).trans inside
  have short := (isGreatest_longestRun content.toList).2 part
  rw [length_fence] at long
  omega

/-- **All lines of a body go to the code** if no part of it closes the fence, and the fence
behind them closes the block. -/
theorem readLines_body {length : Nat} (long : 3 ≤ length) {content : List Char}
    (unclosed : ∀ t, t <:+: content → Markdown.Marker.closesFence '\x60' length t = false)
    (blocks : List Markdown.Block) (start offset : Nat) (info : String) :
    (inFence blocks start info length []).readLines
        (splitLines offset [] (content ++ '\n' :: List.replicate length '\x60'))
      = between (.leaf (.code (some info)
          ((splitLines offset [] (content ++ ['\n'])).flatMap Markdown.Line.whole)) start
            :: blocks) := by
  have isLine : Markdown.IsLine (List.replicate length '\x60') :=
    ⟨fun feed => absurd (List.eq_of_mem_replicate feed) (by decide),
      fun ret => absurd (List.eq_of_mem_replicate ret) (by decide)⟩
  have filled : [] ++ List.replicate length '\x60' ≠ [] := by
    rw [List.nil_append, Ne, List.replicate_eq_nil_iff]
    omega
  have inside : ∀ l ∈ splitLines offset [] (content ++ ['\n']), ∀ t, t <:+ l.chars →
      Markdown.Marker.closesFence '\x60' length t = false := fun l member t ends =>
    unclosed t (ends.isInfix.trans (Markdown.infix_of_mem_splitLines member))
  obtain ⟨offset', cut⟩ :=
    Markdown.splitLines_append_feed offset [] content (List.replicate length '\x60')
  rw [cut, Markdown.splitLines_last isLine offset' filled, Markdown.readLines_code inside,
    Markdown.readLines_cons rfl, List.nil_append, List.reverse_nil, List.nil_append,
    Markdown.step_fence_end long]
  rfl

/-! ## The written block -/

/-- Every template is written, and with its body between two fences. -/
theorem exists_templateBlocks (p : Pipeline) (t : Template) :
    ∃ written, templateBlocks Grammar.standard p t = .ok written
      ∧ fence t.content ++ t.language.getD "" ++ "\n" ++ t.content ++ "\n" ++ fence t.content
        ∈ written := by
  obtain ⟨written, ok⟩ := templateBlocks_ok p t
  obtain ⟨lines, -, same⟩ := Except.bind_ok_iff.1 ok
  refine ⟨written, ok, ?_⟩
  cases same
  exact List.mem_append_right _ List.mem_cons_self

/-- **A body does not close its fence.** -/
theorem fence_unclosed (content : String) :
    (∃ longest, IsGreatest {n | List.replicate n '\x60' <:+: content.toList} longest
        ∧ fence content = String.ofList (List.replicate (max 3 (longest + 1)) '\x60'))
      ∧ (∀ line ∈ Markdown.linesOf content.toList, ¬IsClosing (fence content).length line.chars)
      ∧ (∀ blocks start offset info,
          (inFence blocks start info (fence content).length []).readLines
              (splitLines offset [] (content ++ "\n" ++ fence content).toList)
            = between (.leaf (.code (some info)
                ((splitLines offset [] (content ++ "\n").toList).flatMap Markdown.Line.whole))
                  start :: blocks))
      ∧ ∀ p t, t.content = content →
          ∃ written, templateBlocks Grammar.standard p t = .ok written
            ∧ fence content ++ t.language.getD "" ++ "\n" ++ content ++ "\n" ++ fence content
              ∈ written := by
  refine ⟨⟨_, isGreatest_longestRun content.toList, ?_⟩, fun line member => ?_,
    fun blocks start offset info => ?_, fun p t same => ?_⟩
  · rw [Nat.max_comm]
    rfl
  · obtain ⟨-, inside⟩ := Markdown.chars_of_mem_splitLines Markdown.isLine_nil member
    exact not_isClosing_of_infix inside
  · have long : 3 ≤ (fence content).length := by
      rw [length_fence]
      omega
    have unclosed : ∀ t, t <:+: content.toList →
        Markdown.Marker.closesFence '\x60' (fence content).length t = false := by
      intro t inside
      rw [length_fence]
      exact closesFence_of_infix inside
    have read := readLines_body long unclosed blocks start offset info
    have rest : (content ++ "\n" ++ fence content).toList
        = content.toList ++ '\n' :: (fence content).toList := by simp
    have body : (content ++ "\n").toList = content.toList ++ ['\n'] := by simp
    rw [← toList_fence] at read
    rw [rest, body, read]
  · subst same
    exact exists_templateBlocks p t

/-- A body with a block of code of its own. -/
theorem fence_unclosed_nested :
    ∃ written, templateBlocks Grammar.standard (.new "T") (.new "Step" "```\nx\n```" "r")
          = .ok written
      ∧ "````\n```\nx\n```\n````" ∈ written := by
  obtain ⟨written, ok, member⟩ :=
    (fence_unclosed "```\nx\n```").2.2.2 (.new "T") (.new "Step" "```\nx\n```" "r") rfl
  have ticks : fence "```\nx\n```" = "````" := by decide
  rw [ticks] at member
  exact ⟨written, ok, member⟩

end Document

end PromptPipeline
