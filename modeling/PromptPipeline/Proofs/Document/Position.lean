/-
# Proofs.Document.Position -- the line in which a byte stands

The search among ascending numbers narrows down the places at which the one that is sought can
be: the numbers before are below it and those behind above it (`Brackets`).  What it finds is
right (`tells_search`), so the line of a byte is the number of the lines that start at it or
before it (`lineAt_eq_countP`).

Lines start at the first byte and behind line feeds, and the byte of a line feed is in the code
of no other character (`count_take_code`).  Hence `lineAt_lineStarts`: the line of a byte is one
more than the number of line feeds among the bytes before it, and later bytes never stand in
earlier lines.  A byte in the middle of a character or behind the end of the source is no
exception.
-/
import PromptPipeline.Document.Extract
import Mathlib.Data.List.Basic
import Mathlib.Data.Nat.Basic
import Mathlib.Order.Monotone.Defs

namespace PromptPipeline.Document

set_option autoImplicit false

variable {numbers before after : List Nat} {sought low high place offset start : Nat}
  {s : List Char}

/-! ## Searching -/

/-- What a search has ruled out: the numbers at the places before `low` are below the one that is
sought, and those at the places from `high` on are above it. -/
structure Brackets (numbers : List Nat) (sought low high : Nat) : Prop where
  within : high ≤ numbers.length
  below : ∀ n ∈ numbers.take low, n < sought
  above : ∀ n ∈ numbers.drop high, sought < n

/-- That what a search finds is right. -/
def Sought.Tells (numbers : List Nat) (sought : Nat) : Sought → Prop
  | .found place => ∃ before after, numbers = before ++ sought :: after ∧ before.length = place
  | .missing place => Brackets numbers sought place place

theorem brackets_all : Brackets numbers sought 0 numbers.length where
  within := Nat.le_refl _
  below := by simp
  above := by simp

theorem exists_at (there : place < numbers.length) :
    ∃ before after, numbers = before ++ numbers.getD place 0 :: after ∧ before.length = place := by
  refine ⟨numbers.take place, numbers.drop (place + 1), ?_,
    List.length_take_of_le (Nat.le_of_lt there)⟩
  rw [List.getD_eq_getElem?_getD, List.getElem?_eq_getElem there, Option.getD_some,
    ← List.drop_eq_getElem_cons, List.take_append_drop]

/-- In ascending numbers, those before a place are below the number at it. -/
theorem lt_of_ascending {n : Nat} (ascending : (before ++ n :: after).Pairwise (· < ·)) :
    (∀ m ∈ before, m < n) ∧ ∀ m ∈ after, n < m := by
  obtain ⟨-, rest, across⟩ := List.pairwise_append.1 ascending
  exact ⟨fun m member => across m member n List.mem_cons_self, (List.pairwise_cons.1 rest).1⟩

/-- The number in the middle is below the one that is sought: so are all before it. -/
theorem Brackets.upper (brackets : Brackets numbers sought low high)
    (ascending : numbers.Pairwise (· < ·)) (inside : place < high)
    (less : numbers.getD place 0 < sought) : Brackets numbers sought (place + 1) high where
  within := brackets.within
  above := brackets.above
  below := by
    obtain ⟨before, after, split, rfl⟩ := exists_at (Nat.lt_of_lt_of_le inside brackets.within)
    generalize numbers.getD before.length 0 = n at split less
    subst split
    obtain ⟨smaller, -⟩ := lt_of_ascending ascending
    intro m member
    rw [List.take_length_add_append, List.take_succ_cons, List.take_zero] at member
    rcases List.mem_append.1 member with earlier | here
    · exact Nat.lt_trans (smaller m earlier) less
    · obtain rfl := List.mem_singleton.1 here
      exact less

/-- The number in the middle is above the one that is sought: so are all behind it. -/
theorem Brackets.lower (brackets : Brackets numbers sought low high)
    (ascending : numbers.Pairwise (· < ·)) (inside : place < high)
    (more : sought < numbers.getD place 0) : Brackets numbers sought low place where
  within := Nat.le_of_lt (Nat.lt_of_lt_of_le inside brackets.within)
  below := brackets.below
  above := by
    obtain ⟨before, after, split, rfl⟩ := exists_at (Nat.lt_of_lt_of_le inside brackets.within)
    generalize numbers.getD before.length 0 = n at split more
    subst split
    obtain ⟨-, larger⟩ := lt_of_ascending ascending
    intro m member
    rw [List.drop_left] at member
    rcases List.mem_cons.1 member with rfl | later
    · exact more
    · exact Nat.lt_trans more (larger m later)

/-- **What a search among ascending numbers finds is right**, whatever it has ruled out before. -/
theorem tells_search (ascending : numbers.Pairwise (· < ·)) (ordered : low ≤ high)
    (brackets : Brackets numbers sought low high) :
    (search numbers sought low high).Tells numbers sought := by
  fun_induction search numbers sought low high with
  | case1 low high left middle less ih =>
      have inside : middle < high := by omega
      exact ih (by omega) (brackets.upper ascending inside (Nat.compare_eq_lt.1 less))
  | case2 low high left middle more ih =>
      have inside : middle < high := by omega
      exact ih (by omega) (brackets.lower ascending inside (Nat.compare_eq_gt.1 more))
  | case3 low high left middle same =>
      have inside : middle < high := by omega
      have here := exists_at (Nat.lt_of_lt_of_le inside brackets.within)
      rwa [Nat.compare_eq_eq.1 same] at here
  | case4 low high done =>
      obtain rfl : low = high := by omega
      exact brackets

/-- Numbers that are cut in two: those up to the one that is sought and those above it. -/
theorem countP_of_cut (lower : ∀ n ∈ before, n ≤ offset) (upper : ∀ n ∈ after, offset < n) :
    (before ++ after).countP (· ≤ offset) = before.length := by
  have all : before.countP (· ≤ offset) = before.length :=
    List.countP_eq_length.2 fun n member => decide_eq_true (lower n member)
  have none : after.countP (· ≤ offset) = 0 :=
    List.countP_eq_zero.2 fun n member => by simpa using upper n member
  rw [List.countP_append, all, none, Nat.add_zero]

/-- **The line of a byte is the number of lines that start at it or before it.** -/
theorem lineAt_eq_countP (ascending : numbers.Pairwise (· < ·)) (offset : Nat) :
    lineAt numbers offset = numbers.countP (· ≤ offset) := by
  have tells : (search numbers offset 0 numbers.length).Tells numbers offset :=
    tells_search ascending (Nat.zero_le _) brackets_all
  unfold lineAt
  cases result : search numbers offset 0 numbers.length with
  | found place =>
      rw [result] at tells
      -- A start that is found counts itself, hence the one more than its place.
      obtain ⟨before, after, rfl, rfl⟩ := tells
      obtain ⟨smaller, larger⟩ := lt_of_ascending ascending
      have upTo : ∀ n ∈ before ++ [offset], n ≤ offset := by
        intro n member
        rcases List.mem_append.1 member with earlier | here
        · exact (smaller n earlier).le
        · exact (List.mem_singleton.1 here).le
      have counted := countP_of_cut upTo larger
      rw [List.append_assoc, List.singleton_append, List.length_append] at counted
      exact counted.symm
  | missing place =>
      rw [result] at tells
      have counted := countP_of_cut (fun n member => (tells.below n member).le) tells.above
      rw [List.take_append_drop, List.length_take_of_le tells.within] at counted
      exact counted.symm

/-! ## Where lines start -/

theorem startsAfter_ascending (start : Nat) (s : List Char) :
    (start :: startsAfter start s).Pairwise (· < ·) := by
  induction s generalizing start with
  | nil => exact List.pairwise_singleton _ _
  | cons c s ih =>
      obtain ⟨above, ascending⟩ := List.pairwise_cons.1 (ih (start + c.utf8Size))
      have next : start < start + c.utf8Size := Nat.lt_add_of_pos_right c.utf8Size_pos
      have further : ∀ n ∈ startsAfter (start + c.utf8Size) s, start < n := fun n member =>
        Nat.lt_trans next (above n member)
      rw [startsAfter]
      split
      · exact List.pairwise_cons.2 ⟨List.forall_mem_cons.2 ⟨next, further⟩, ih _⟩
      · exact List.pairwise_cons.2 ⟨further, ascending⟩

/-! ## Line feeds -/

/-- The byte of a line feed. -/
def feed : UInt8 := '\n'.toUInt8

/-- **No byte of another character is a line feed.**  A character of several bytes has none
below 128. -/
theorem not_feed_of_ne {c : Char} (other : c ≠ '\n') : feed ∉ String.utf8EncodeChar c := by
  have byte {n : Nat} (same : feed = UInt8.ofNat n) : n % 256 = 10 :=
    UInt8.toNat_ofNat'.symm.trans (congrArg UInt8.toNat same).symm
  have high {n : Nat} (large : 128 ≤ n) (fits : n < 256) : feed ≠ UInt8.ofNat n := by
    intro same
    have low := byte same
    omega
  simp only [String.utf8EncodeChar]
  split
  · rename_i single
    rw [List.mem_singleton]
    intro same
    have code := byte same
    have isFeed : c.toNat = 10 := by
      change c.val.toNat = 10
      omega
    exact other (Char.toNat_inj.1 isFeed)
  · split
    · simp only [List.mem_cons, List.not_mem_nil, or_false, not_or]
      exact ⟨high (by omega) (by omega), high (by omega) (by omega)⟩
    · split
      · simp only [List.mem_cons, List.not_mem_nil, or_false, not_or]
        exact ⟨high (by omega) (by omega), high (by omega) (by omega),
          high (by omega) (by omega)⟩
      · simp only [List.mem_cons, List.not_mem_nil, or_false, not_or]
        exact ⟨high (by omega) (by omega), high (by omega) (by omega),
          high (by omega) (by omega), high (by omega) (by omega)⟩

/-- The line feeds among the first bytes of a character. -/
theorem count_take_code (c : Char) (n : Nat) :
    ((String.utf8EncodeChar c).take n).count feed = if c = '\n' ∧ 0 < n then 1 else 0 := by
  by_cases isFeed : c = '\n'
  · subst isFeed
    have code : String.utf8EncodeChar '\n' = [feed] := by decide
    rw [code]
    cases n with
    | zero => rfl
    | succ n => simp
  · rw [if_neg fun both => isFeed both.1]
    exact List.count_eq_zero_of_not_mem fun member =>
      not_feed_of_ne isFeed (List.mem_of_mem_take member)

/-- **As many lines start behind the first, up to a byte, as there are line feeds before it.** -/
theorem countP_startsAfter (start offset : Nat) (s : List Char) :
    (startsAfter start s).countP (· ≤ offset)
      = ((s.flatMap String.utf8EncodeChar).take (offset - start)).count feed := by
  induction s generalizing start with
  | nil => simp [startsAfter]
  | cons c s ih =>
      have rest := ih (start + c.utf8Size)
      rw [← Nat.sub_sub] at rest
      rw [List.flatMap_cons, List.take_append, List.count_append, count_take_code,
        String.length_utf8EncodeChar, startsAfter, ← rest]
      split
      · rename_i isFeed
        have size : c.utf8Size = 1 := isFeed ▸ rfl
        rw [List.countP_cons, size, Nat.add_comm]
        simp only [isFeed, decide_eq_true_eq, true_and, Nat.succ_le_iff, Nat.sub_pos_iff_lt]
      · rename_i other
        simp [other]

/-! ## Lines -/

/-- **The line of a byte is one more than the number of line feeds before it**, so lines ascend
with bytes. -/
theorem lineAt_lineStarts (source : String) :
    (∀ offset, lineAt (lineStarts source.toList) offset
        = (source.toByteArray.data.toList.take offset).count feed + 1)
      ∧ Monotone (lineAt (lineStarts source.toList)) := by
  have ascending := startsAfter_ascending 0 source.toList
  have counted (offset : Nat) :
      lineAt (lineStarts source.toList) offset
        = (lineStarts source.toList).countP (· ≤ offset) := lineAt_eq_countP ascending offset
  have bytes : source.toByteArray.data.toList = source.toList.flatMap String.utf8EncodeChar := by
    rw [← String.utf8Encode_toList, List.utf8Encode, List.data_toByteArray]
  refine ⟨fun offset => ?_, fun offset offset' le => ?_⟩
  · rw [counted, lineStarts, List.countP_cons, countP_startsAfter, bytes]
    simp
  · rw [counted, counted]
    refine List.countP_mono_left fun start _ before => ?_
    exact decide_eq_true (Nat.le_trans (of_decide_eq_true before) le)

/-- A text with an empty line and a letter of two bytes at its end. -/
example : (List.range 6).map (lineAt (lineStarts "a\n\né".toList)) = [1, 1, 2, 3, 3, 3] := by
  cbv

end PromptPipeline.Document
