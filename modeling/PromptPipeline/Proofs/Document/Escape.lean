/-
# Proofs.Document.Escape -- what is written opens nothing but its block

A line of prose that is escaped, and the line of a command, are read as the text of a
paragraph (`plain_escapeLine`, `itemText_of_letter`).  A fence is longer than any run of
backticks in its body, so no part of a line of the body closes it (`closesFence_fence`).
-/
import PromptPipeline.Document.Print
import PromptPipeline.Proofs.Markdown.Items
import PromptPipeline.Proofs.Text.Split
import PromptPipeline.Proofs.Text.Trim

namespace PromptPipeline.Document

set_option autoImplicit false

open Markdown (Plain ItemText isSpace)
open Markdown.Marker (bullet?)

/-! ## Lines of prose -/

theorem isSpace_of_not_isBlank {c : Char} (solid : Unicode.isBlank c = false) :
    isSpace c = false := by
  by_cases space : isSpace c = true
  · simp only [isSpace, Bool.or_eq_true, decide_eq_true_eq] at space
    rcases space with ((rfl | rfl) | rfl) | rfl
    · cases solid
    · cases solid
    · cases solid
    · cases solid
  · exact Bool.eq_false_iff.2 space

/-- What a line of a paragraph must not start with. -/
def marks : List Char := ['#', '>', '<', '-', '+', '*', '_', '=', '~', '\x60']

/-- A line that starts with no mark and is no item opens nothing but a paragraph. -/
theorem plain_of_first {c : Char} {rest : List Char} (solid : isSpace c = false)
    (noMark : c ∉ marks) (noBullet : bullet? (c :: rest) = none) : Plain (c :: rest) := by
  simp only [marks, List.mem_cons, List.not_mem_nil, or_false, not_or] at noMark
  obtain ⟨sign, quote, html, hyphen, plus, star, underscore, underline, tilde, tick⟩ := noMark
  refine {
    solid := ⟨c, rfl, solid⟩
    noQuote := ?_
    noItem := ?_
    noHtml := ?_
    noRule := ?_
    noHeading := ?_
    noFence := ?_
    noUnderline := ?_
    noItemInside := ?_ }
  · simpa using quote
  · intro offset column
    exact Markdown.item?_of_unmarked noBullet
  · simpa using html
  · simp [Markdown.Marker.isRule, hyphen, star, underscore]
  · simp [Markdown.Marker.heading?, sign]
  · unfold Markdown.Marker.fence?
    simp only [tilde, tick, false_and, or_self, if_false]
    split
    · rfl
    · rfl
  · unfold Markdown.Marker.underline?
    split
    · rename_i same
      exact absurd (List.cons.inj same).1 underline
    · rename_i same
      exact absurd (List.cons.inj same).1 hyphen
    · rfl
  · intro next
    rw [Markdown.Marker.interruptsAsItem, noBullet]

/-- A line whose first character is no digit and no mark is no item. -/
theorem bullet?_of_first {c : Char} {rest : List Char} (noMark : c ∉ marks)
    (noDigit : c.isDigit = false) : bullet? (c :: rest) = none := by
  simp only [marks, List.mem_cons, List.not_mem_nil, or_false, not_or] at noMark
  simp [bullet?, noMark, noDigit]

/-- A number that nothing follows which marks an item is no item. -/
theorem bullet?_of_number {c : Char} {rest : List Char} (noMark : c ∉ marks)
    (noDot : ∀ d digits after, (c :: rest).takeWhile Char.isDigit = d :: digits →
      (c :: rest).drop (d :: digits).length ≠ '.' :: after)
    (noParenthesis : ∀ d digits after, (c :: rest).takeWhile Char.isDigit = d :: digits →
      (c :: rest).drop (d :: digits).length ≠ ')' :: after) : bullet? (c :: rest) = none := by
  simp only [marks, List.mem_cons, List.not_mem_nil, or_false, not_or] at noMark
  unfold bullet?
  dsimp only
  rw [if_neg (by simp [noMark])]
  split
  · rfl
  · rename_i some
    obtain ⟨d, digits, is⟩ := List.exists_cons_of_ne_nil
      (fun none => some (.inl (List.isEmpty_iff.2 none)))
    rw [is]
    split
    · rename_i after dot
      exact absurd dot (noDot d digits after is)
    · rename_i after parenthesis
      exact absurd parenthesis (noParenthesis d digits after is)
    · rfl

theorem not_mem_marks_of_digit {c : Char} (digit : c.isDigit = true) : c ∉ marks := by
  have others : ∀ m ∈ marks, m.isDigit = false := by simp [marks]
  intro member
  rw [others c member] at digit
  cases digit

/-- A number with a backslash behind it is no item. -/
theorem first_of_number {s rest : List Char} {d : Char} {digits : List Char}
    (number : s.takeWhile Char.isDigit = d :: digits)
    (solid : ∀ c, s.head? = some c → Unicode.isBlank c = false) :
    Unicode.isBlank d = false ∧ d ∉ marks
      ∧ bullet? (d :: (digits ++ '\\' :: rest)) = none := by
  have allDigits : ∀ c ∈ d :: digits, c.isDigit = true := by
    rw [← number]
    exact List.all_eq_true.1 List.all_takeWhile
  have noMark := not_mem_marks_of_digit (allDigits d List.mem_cons_self)
  have head : s.head? = some d := by
    cases s with
    | nil => cases number
    | cons c s =>
        rw [List.takeWhile_cons] at number
        split at number
        · exact congrArg some (List.cons.inj number).1
        · cases number
  have same : (d :: (digits ++ '\\' :: rest)).takeWhile Char.isDigit = d :: digits := by
    rw [← List.cons_append, List.takeWhile_append_of_pos allDigits]
    simp
  refine ⟨solid d head, noMark, bullet?_of_number noMark ?_ ?_⟩
  · intro e others after is
    rw [← is, same, ← List.cons_append, List.drop_left]
    simp
  · intro e others after is
    rw [← is, same, ← List.cons_append, List.drop_left]
    simp

/-- What an escaped line starts with is no white space and no mark, and it is no item. -/
theorem escapeLine_first {line : List Char} (filled : escapeLine line ≠ []) :
    ∃ c rest, escapeLine line = c :: rest ∧ Unicode.isBlank c = false ∧ c ∉ marks
      ∧ bullet? (c :: rest) = none := by
  have solid := Text.dropLeading_head (p := Unicode.isBlank) line
  have escaped (rest : List Char) : Unicode.isBlank '\\' = false ∧ '\\' ∉ marks
      ∧ bullet? ('\\' :: rest) = none :=
    ⟨by decide, by decide, bullet?_of_first (by decide) (by decide)⟩
  revert filled
  unfold escapeLine
  generalize Text.dropLeading Unicode.isBlank line = s at solid ⊢
  dsimp only
  split
  · rename_i d digits rest number dot
    intro _
    exact ⟨d, _, by rw [number]; rfl, first_of_number number solid⟩
  · rename_i d digits rest number parenthesis
    intro _
    exact ⟨d, _, by rw [number]; rfl, first_of_number number solid⟩
  · rename_i noDot noParenthesis
    split
    · intro filled
      exact absurd rfl filled
    · intro _
      exact ⟨'\\', _, by simp; rfl, escaped _⟩
    · rename_i c rest noTick
      intro _
      split
      · exact ⟨'\\', _, rfl, escaped _⟩
      · rename_i opensNothing
        have noMark : c ∉ marks := by
          have noTick : c ≠ '\x60' := noTick
          simp only [opensBlock, List.contains_iff_mem] at opensNothing
          simpa [marks, noTick] using opensNothing
        refine ⟨c, rest, rfl, solid c rfl, noMark, bullet?_of_number noMark ?_ ?_⟩
        · exact fun d digits after number dot => noDot d digits after number (number ▸ dot)
        · exact fun d digits after number parenthesis =>
            noParenthesis d digits after number (number ▸ parenthesis)

/-- **An escaped line is a line of a paragraph.** -/
theorem plain_escapeLine {line : List Char} (filled : escapeLine line ≠ []) :
    Plain (escapeLine line) := by
  obtain ⟨c, rest, is, solid, noMark, noBullet⟩ := escapeLine_first filled
  rw [is]
  exact plain_of_first (isSpace_of_not_isBlank solid) noMark noBullet

/-- A line that starts with a letter is the text of an item. -/
theorem itemText_of_letter {c : Char} {rest : List Char} (letter : c.isAlpha = true) :
    ItemText (c :: rest) := by
  have others : ∀ m ∈ [' ', '\t', '\x0b', '\x0c', '['] ++ marks, m.isAlpha = false := by
    simp [marks]
  have differs : ∀ m ∈ [' ', '\t', '\x0b', '\x0c', '['] ++ marks, c ≠ m := by
    rintro m member rfl
    rw [others c member] at letter
    cases letter
  have noMark : c ∉ marks := fun member => differs c (List.mem_append_right _ member) rfl
  have solid : isSpace c = false := by
    simp [isSpace, differs]
  have noDigit : c.isDigit = false := by
    -- the codes of the letters lie past those of the digits
    have past : '9'.val < c.val := by
      rcases Bool.or_eq_true_iff.1 letter with upper | lower
      · have least : 'A'.val ≤ c.val := (of_decide_eq_true upper).1
        exact UInt32.lt_of_lt_of_le (by decide) least
      · have least : 'a'.val ≤ c.val := of_decide_eq_true (Bool.and_eq_true_iff.1 lower).1
        exact UInt32.lt_of_lt_of_le (by decide) least
    rw [Char.isDigit, Bool.and_eq_false_iff]
    exact .inr (decide_eq_false (UInt32.not_le.2 past))
  refine {
    toPlain := plain_of_first solid noMark (bullet?_of_first noMark noDigit)
    noHyphen := ?_
    noBracket := ?_ }
  · simpa using differs '-' (by decide)
  · simpa using differs '[' (by decide)

/-- An arrow opens no block. -/
theorem plain_arrow (rest : List Char) : Plain ('-' :: '>' :: rest) where
  solid := ⟨'-', rfl, rfl⟩
  noQuote := by simp
  noItem := by
    intro offset column
    have bullet : bullet? ('-' :: '>' :: rest) = some ('-', 1, 1, '>' :: rest) := by
      simp [bullet?]
    exact Markdown.item?_of_unspaced bullet rfl
  noHtml := by simp
  noRule := by simp [Markdown.Marker.isRule]
  noHeading := by simp [Markdown.Marker.heading?]
  noFence := by simp [Markdown.Marker.fence?]
  noUnderline := by simp [Markdown.Marker.underline?, Markdown.isBlankLine, isSpace]
  noItemInside := by
    intro next
    simp [Markdown.Marker.interruptsAsItem, bullet?]

/-- Escaping adds nothing to a line but a backslash. -/
theorem mem_escapeLine {line : List Char} {c : Char} (member : c ∈ escapeLine line) :
    c ∈ line ∨ c = '\\' := by
  have inside : Text.dropLeading Unicode.isBlank line ⊆ line :=
    (List.dropWhile_suffix Unicode.isBlank).subset
  revert member
  unfold escapeLine
  generalize Text.dropLeading Unicode.isBlank line = s at inside ⊢
  have number : s.takeWhile Char.isDigit ⊆ s := (List.takeWhile_prefix Char.isDigit).subset
  have behind (n : Nat) : s.drop n ⊆ s := (List.drop_suffix n s).subset
  dsimp only
  split
  · rename_i d digits rest is dot
    rw [is] at number dot ⊢
    intro member
    rcases List.mem_append.1 member with front | later
    · exact .inl (inside (number front))
    · rcases List.mem_cons.1 later with rfl | later
      · exact .inr rfl
      · exact .inl (inside (behind _ (dot ▸ later)))
  · rename_i d digits rest is parenthesis
    rw [is] at number parenthesis ⊢
    intro member
    rcases List.mem_append.1 member with front | later
    · exact .inl (inside (number front))
    · rcases List.mem_cons.1 later with rfl | later
      · exact .inr rfl
      · exact .inl (inside (behind _ (parenthesis ▸ later)))
  · split
    · exact fun member => nomatch member
    · intro member
      rcases List.mem_append.1 member with front | later
      · obtain ⟨tick, there, either⟩ := List.mem_flatMap.1 front
        rcases List.mem_cons.1 either with rfl | same
        · exact .inr rfl
        · obtain rfl := List.mem_singleton.1 same
          exact .inl (inside ((List.takeWhile_prefix _).subset there))
      · exact .inl (inside ((List.dropWhile_suffix _).subset later))
    · intro member
      split at member
      · rcases List.mem_cons.1 member with rfl | later
        · exact .inr rfl
        · exact .inl (inside later)
      · exact .inl (inside member)

/-! ## Bodies -/

theorem le_longestRun (run : Nat) (s : List Char) :
    run + (s.takeWhile (· = '\x60')).length ≤ longestRun run s := by
  induction s generalizing run with
  | nil => simp [longestRun]
  | cons c s ih =>
      rw [longestRun]
      split
      · rename_i tick
        have next := ih (run + 1)
        simp only [List.takeWhile_cons, tick, decide_true, if_true, List.length_cons]
        omega
      · rename_i other
        simp only [List.takeWhile_cons, other, decide_false, Bool.false_eq_true, if_false,
          List.length_nil]
        omega

theorem longestRun_mono {run run' : Nat} (le : run ≤ run') (s : List Char) :
    longestRun run s ≤ longestRun run' s := by
  induction s generalizing run run' with
  | nil => exact le
  | cons c s ih =>
      rw [longestRun, longestRun]
      split
      · exact ih (by omega)
      · omega

theorem longestRun_append (before s : List Char) :
    longestRun 0 s ≤ longestRun 0 (before ++ s) := by
  induction before with
  | nil => exact Nat.le_refl _
  | cons c before ih =>
      rw [List.cons_append, longestRun]
      split
      · exact Nat.le_trans ih (longestRun_mono (Nat.zero_le _) _)
      · omega

theorem takeWhile_length_append_le (p : Char → Bool) (s t : List Char) :
    (s.takeWhile p).length ≤ ((s ++ t).takeWhile p).length := by
  rw [List.takeWhile_append]
  split
  · rename_i all
    rw [List.length_append]
    omega
  · exact Nat.le_refl _

/-- A run that stands anywhere in a text is no longer than the longest. -/
theorem run_le_longestRun {s t : List Char} (inside : t <:+: s) :
    (t.takeWhile (· = '\x60')).length ≤ longestRun 0 s := by
  obtain ⟨before, after, rfl⟩ := inside
  have grows := takeWhile_length_append_le (· = '\x60') t after
  have here := le_longestRun 0 (t ++ after)
  have behind := longestRun_append before (t ++ after)
  rw [List.append_assoc]
  omega

/-- **No part of a body closes its fence.** -/
theorem closesFence_of_infix {content t : List Char} (inside : t <:+: content) :
    Markdown.Marker.closesFence '\x60' (max (longestRun 0 content + 1) 3) t = false := by
  have short := run_le_longestRun inside
  have shorter : ¬max (longestRun 0 content + 1) 3 ≤ (t.takeWhile (· = '\x60')).length := by
    omega
  simp [Markdown.Marker.closesFence, shorter]

theorem closesFence_fence {content line t : List Char}
    (member : line ∈ Text.splitAt (· == '\n') content) (tail : t <:+ line) :
    Markdown.Marker.closesFence '\x60' (max (longestRun 0 content + 1) 3) t = false := by
  have inside : line <:+: content := by
    have within := Text.infix_joinWith ['\n'] member
    rwa [Text.joinWith_splitAt] at within
  exact closesFence_of_infix (tail.isInfix.trans inside)

end PromptPipeline.Document
