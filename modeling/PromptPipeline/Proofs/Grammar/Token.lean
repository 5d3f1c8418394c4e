/-
# Proofs.Grammar.Token -- what the tokens of a line are

The scan goes through a line once, so everything here is an induction on what is left of
it, for any position and any token under construction.

* A word is one token, and so is a text between backticks (`scan_word`, `scan_quoted`).
* Tokens start in ascending order (`scan_pairwise`).
* From the start of a token on, the line has this token and those behind it, and does not
  start with a blank (`restart`).  So a line that is cut there is read alike.
* The text of a token has characters of the line, at least one and no backtick
  (`text_of_mem`), and no character of the line but blanks and backticks is lost
  (`exists_token_of_mem`).
-/
import PromptPipeline.Grammar.Token
import Mathlib.Algebra.Order.Group.Nat
import Mathlib.Data.List.Basic

namespace PromptPipeline.Grammar.Token

set_option autoImplicit false

open Unicode (isBlank)

/-- The tokens of a list of characters. -/
def ofChars (s : List Char) : List Token := scan 0 false none s

theorem ofLine_eq (line : String) : ofLine line = ofChars line.toList := rfl

/-- Where a token under construction started; the next one starts here. -/
def origin (position : Nat) (current : Open) : Nat := (current.map Prod.fst).getD position

/-- The text of a token under construction. -/
def pending (current : Open) : List Char := (current.map Prod.snd).getD []

variable {position start : Nat} {inQuotes : Bool} {current : Open} {c : Char} {s text : List Char}
  {t : Token} {tokens : List Token}

/-! ## One character -/

theorem scan_tick : scan position inQuotes current ('`' :: s)
    = scan (position + 1) (!inQuotes) (some (current.getD (position, []))) s := by
  rw [scan, if_pos rfl]

theorem scan_gap (blank : isBlank c = true) : scan position false current (c :: s)
    = close current ++ scan (position + 1) false none s := by
  have noTick : c ≠ '`' := by
    rintro rfl
    exact absurd blank (by decide)
  rw [scan, if_neg noTick, if_pos (by simp [blank])]

theorem scan_solid (noTick : c ≠ '`') (solid : inQuotes = false → isBlank c = false) :
    scan position inQuotes current (c :: s)
      = scan (position + 1) inQuotes (extend current position c) s := by
  have stays : (isBlank c && !inQuotes) = false := by
    cases inQuotes with
    | true => simp
    | false => simp [solid rfl]
  rw [scan, if_neg noTick, if_neg (by simp [stays])]

theorem extend_eq (current : Open) (position : Nat) (c : Char) :
    extend current position c = some (origin position current, pending current ++ [c]) := by
  cases current <;> rfl

theorem getD_eq (current : Open) (position : Nat) :
    current.getD (position, []) = (origin position current, pending current) := by
  cases current <;> rfl

/-- **A character goes on with the token under construction or ends it.**  Proofs about
all lines go through this case split. -/
theorem scan_cons (position : Nat) (inQuotes : Bool) (current : Open) (c : Char) (s : List Char) :
    (c = '`' ∧ scan position inQuotes current (c :: s)
        = scan (position + 1) (!inQuotes) (some (origin position current, pending current)) s)
      ∨ (isBlank c = true ∧ inQuotes = false ∧ scan position inQuotes current (c :: s)
        = close current ++ scan (position + 1) false none s)
      ∨ (c ≠ '`' ∧ (inQuotes = false → isBlank c = false)
        ∧ scan position inQuotes current (c :: s)
          = scan (position + 1) inQuotes
              (some (origin position current, pending current ++ [c])) s) := by
  by_cases tick : c = '`'
  · subst tick
    exact .inl ⟨rfl, by rw [scan_tick, getD_eq]⟩
  · by_cases gap : isBlank c = true ∧ inQuotes = false
    · obtain ⟨blank, rfl⟩ := gap
      exact .inr (.inl ⟨blank, rfl, scan_gap blank⟩)
    · have solid : inQuotes = false → isBlank c = false := fun unquoted =>
        Bool.eq_false_iff.2 fun blank => gap ⟨blank, unquoted⟩
      exact .inr (.inr ⟨tick, solid, by rw [scan_solid tick solid, extend_eq]⟩)

theorem mem_close (position : Nat) (member : t ∈ close current) :
    pending current ≠ [] ∧ t = ⟨String.ofList (pending current), origin position current⟩ := by
  rcases current with _ | ⟨start, _ | ⟨c, text⟩⟩
  · cases member
  · cases member
  · exact ⟨List.cons_ne_nil _ _, List.mem_singleton.1 member⟩

theorem exists_mem_of_mem_close (member : t ∈ close current) : ∃ o ∈ current, o.1 = t.start := by
  obtain ⟨filled, is⟩ := mem_close 0 member
  rcases current with _ | o
  · exact absurd rfl filled
  · exact ⟨o, rfl, is ▸ rfl⟩

theorem close_some (start : Nat) (filled : text ≠ []) :
    close (some (start, text)) = [⟨String.ofList text, start⟩] := by
  obtain ⟨c, rest, rfl⟩ := List.exists_cons_of_ne_nil filled
  rfl

/-! ## Words and quotations -/

/-- A character of a word is not blank and no backtick. -/
def IsWordChar (c : Char) : Prop := c ≠ '`' ∧ isBlank c = false

instance (c : Char) : Decidable (IsWordChar c) := inferInstanceAs (Decidable (_ ∧ _))

/-- A word goes on with the token under construction. -/
theorem scan_word_open {word : List Char} (isWord : ∀ c ∈ word, IsWordChar c) :
    scan position inQuotes (some (start, text)) (word ++ s)
      = scan (position + word.length) inQuotes (some (start, text ++ word)) s := by
  induction word generalizing position text with
  | nil => simp
  | cons c word ih =>
      obtain ⟨first, others⟩ := List.forall_mem_cons.1 isWord
      rw [List.cons_append, scan_solid first.1 fun _ => first.2]
      refine (ih others).trans ?_
      rw [List.length_cons, Nat.add_assoc, Nat.add_comm 1, List.append_assoc, List.singleton_append]

/-- A word starts a token. -/
theorem scan_word_start {word : List Char} (isWord : ∀ c ∈ word, IsWordChar c)
    (filled : word ≠ []) :
    scan position false none (word ++ s)
      = scan (position + word.length) false (some (position, word)) s := by
  obtain ⟨c, word, rfl⟩ := List.exists_cons_of_ne_nil filled
  obtain ⟨first, others⟩ := List.forall_mem_cons.1 isWord
  rw [List.cons_append, scan_solid first.1 fun _ => first.2]
  refine (scan_word_open others).trans ?_
  rw [List.length_cons, Nat.add_assoc, Nat.add_comm 1]
  rfl

/-- **A word at the end of a line is one token.** -/
theorem scan_word {word : List Char} (isWord : ∀ c ∈ word, IsWordChar c) (filled : word ≠ []) :
    scan position false none word = [⟨String.ofList word, position⟩] := by
  have run : scan position false none (word ++ []) = _ := scan_word_start isWord filled
  rw [List.append_nil] at run
  rw [run]
  exact close_some position filled

/-- **A word before a blank is one token.** -/
theorem scan_word_gap {word : List Char} (isWord : ∀ c ∈ word, IsWordChar c) (filled : word ≠ [])
    (blank : isBlank c = true) :
    scan position false none (word ++ c :: s)
      = ⟨String.ofList word, position⟩ :: scan (position + word.length + 1) false none s := by
  rw [scan_word_start isWord filled, scan_gap blank, close_some position filled]
  rfl

/-- Inside of a quotation every character but the backtick goes on with the token. -/
theorem scan_inside {inner : List Char} (noTick : '`' ∉ inner) :
    scan position true (some (start, text)) (inner ++ '`' :: s)
      = scan (position + inner.length + 1) false (some (start, text ++ inner)) s := by
  induction inner generalizing position text with
  | nil =>
      rw [List.nil_append, scan_tick, List.append_nil]
      rfl
  | cons c inner ih =>
      rw [List.mem_cons, not_or] at noTick
      have quoted : true = false → isBlank c = false := fun h => nomatch h
      rw [List.cons_append, scan_solid (Ne.symm noTick.1) quoted]
      refine (ih noTick.2).trans ?_
      rw [List.length_cons, Nat.add_right_comm position 1, Nat.add_assoc position,
        List.append_assoc, List.singleton_append]

/-- **A text between backticks at the end of a line is one token.** -/
theorem scan_quoted {inner : List Char} (noTick : '`' ∉ inner) (filled : inner ≠ []) :
    scan position false none ('`' :: (inner ++ ['`'])) = [⟨String.ofList inner, position⟩] := by
  rw [scan_tick]
  refine (scan_inside noTick).trans ?_
  exact close_some position filled

/-! ## Positions -/

/-- A token further behind. -/
def shift (n : Nat) (t : Token) : Token := { t with start := t.start + n }

@[simp] theorem shift_text (n : Nat) (t : Token) : (t.shift n).text = t.text := rfl

@[simp] theorem shift_start (n : Nat) (t : Token) : (t.shift n).start = t.start + n := rfl

/-- Tokens do not depend on the position but by starting there. -/
theorem scan_shift (n : Nat) : scan (position + n) inQuotes
    (current.map fun o => (o.1 + n, o.2)) s = (scan position inQuotes current s).map (shift n) := by
  have origins (position : Nat) (current : Open) :
      origin (position + n) (current.map fun o => (o.1 + n, o.2))
        = origin position current + n := by
    cases current <;> rfl
  have texts (current : Open) :
      pending (current.map fun o => (o.1 + n, o.2)) = pending current := by
    cases current <;> rfl
  have closed (current : Open) :
      close (current.map fun o => (o.1 + n, o.2)) = (close current).map (shift n) := by
    rcases current with _ | ⟨start, _ | ⟨c, text⟩⟩ <;> rfl
  induction s generalizing position inQuotes current with
  | nil => exact closed current
  | cons c s ih =>
      by_cases tick : c = '`'
      · subst tick
        rw [scan_tick, scan_tick, getD_eq, getD_eq, origins, texts, Nat.add_right_comm]
        exact @ih _ _ (some (origin position current, pending current))
      · by_cases gap : isBlank c = true ∧ inQuotes = false
        · obtain ⟨blank, rfl⟩ := gap
          rw [scan_gap blank, scan_gap blank, List.map_append, closed, Nat.add_right_comm]
          exact congrArg _ (@ih _ _ none)
        · have solid : inQuotes = false → isBlank c = false := fun unquoted =>
            Bool.eq_false_iff.2 fun blank => gap ⟨blank, unquoted⟩
          rw [scan_solid tick solid, scan_solid tick solid, extend_eq, extend_eq, origins, texts,
            Nat.add_right_comm]
          exact @ih _ _ (some (origin position current, pending current ++ [c]))

theorem scan_eq_map_shift (n : Nat) (s : List Char) :
    scan n false none s = (ofChars s).map (shift n) := by
  have moved : scan (0 + n) false ((none : Open).map fun o => (o.1 + n, o.2)) s
      = (scan 0 false none s).map (shift n) := scan_shift n
  rwa [Nat.zero_add] at moved

theorem origin_lt_succ (before : ∀ o ∈ current, o.1 < position) :
    origin position current < position + 1 := by
  rcases current with _ | o
  · exact Nat.lt_succ_self _
  · exact Nat.lt_succ_of_lt (before o rfl)

/-- A token under construction that has gone on started before the next position. -/
theorem before_some (before : ∀ o ∈ current, o.1 < position) (text : List Char) :
    ∀ o ∈ some (origin position current, text), o.1 < position + 1 := by
  rintro o ⟨⟩
  exact origin_lt_succ before

theorem before_none (position : Nat) : ∀ o ∈ (none : Open), o.1 < position :=
  fun _ h => nomatch h

/-- No token starts before the one under construction. -/
theorem origin_le_start (before : ∀ o ∈ current, o.1 < position)
    (member : t ∈ scan position inQuotes current s) : origin position current ≤ t.start := by
  induction s generalizing position inQuotes current with
  | nil => exact (mem_close position member).2 ▸ Nat.le_refl _
  | cons c s ih =>
      rcases scan_cons position inQuotes current c s with
        ⟨-, next⟩ | ⟨-, -, next⟩ | ⟨-, -, next⟩
      · have goesOn := ih (before_some before _) (next ▸ member)
        exact goesOn
      · rw [next, List.mem_append] at member
        rcases member with closed | later
        · exact (mem_close position closed).2 ▸ Nat.le_refl _
        · have after := ih (before_none _) later
          have step := Nat.le_of_lt_succ (origin_lt_succ before)
          exact step.trans ((Nat.le_succ position).trans after)
      · have goesOn := ih (before_some before _) (next ▸ member)
        exact goesOn

theorem close_pairwise (current : Open) : (close current).Pairwise (·.start < ·.start) := by
  rcases current with _ | ⟨start, _ | ⟨c, text⟩⟩
  · exact .nil
  · exact .nil
  · exact List.pairwise_singleton _ _

/-- **Tokens start in ascending order.** -/
theorem scan_pairwise (before : ∀ o ∈ current, o.1 < position) :
    (scan position inQuotes current s).Pairwise (·.start < ·.start) := by
  induction s generalizing position inQuotes current with
  | nil => exact close_pairwise current
  | cons c s ih =>
      rcases scan_cons position inQuotes current c s with
        ⟨-, next⟩ | ⟨-, -, next⟩ | ⟨-, -, next⟩
      · exact next ▸ ih (before_some before _)
      · rw [next, List.pairwise_append]
        refine ⟨close_pairwise current, ih (before_none _), fun a closed b later => ?_⟩
        rw [(mem_close position closed).2]
        exact (origin_lt_succ before).trans_le (origin_le_start (before_none _) later)
      · exact next ▸ ih (before_some before _)

/-- The first token of all does not come behind another one. -/
theorem eq_nil_of_start_le {before after : List Token}
    (split : scan position inQuotes none s = before ++ t :: after) (least : t.start ≤ position) :
    before = [] := by
  cases before with
  | nil => rfl
  | cons b before =>
      have ordered : (scan position inQuotes none s).Pairwise (·.start < ·.start) :=
        scan_pairwise (before_none position)
      rw [split, List.cons_append, List.pairwise_cons] at ordered
      have member : b ∈ scan position inQuotes none s := split ▸ List.mem_cons_self
      have above := origin_le_start (before_none position) member
      exact absurd ((ordered.1 t (by simp)).trans_le least) (Nat.not_lt.2 above)

/-! ## Where tokens start -/

/-- A token starts somewhere in what is left, and a scan from there finds it and those behind. -/
def Restarts (t : Token) (after : List Token) (position : Nat) (s : List Char) : Prop :=
  ∃ skipped rest, s = skipped ++ rest ∧ t.start = position + skipped.length
    ∧ scan t.start false none rest = t :: after

theorem Restarts.cons {after : List Token} (restarts : Restarts t after (position + 1) s)
    (c : Char) : Restarts t after position (c :: s) := by
  obtain ⟨skipped, rest, rfl, start, same⟩ := restarts
  refine ⟨c :: skipped, rest, rfl, ?_, same⟩
  rw [start, List.length_cons, Nat.add_assoc, Nat.add_comm 1]

/-- The first token of a scan that starts with it. -/
theorem restarts_first {before after : List Token}
    (split : scan t.start false none s = before ++ t :: after) : Restarts t after t.start s := by
  have first := eq_nil_of_start_le split (Nat.le_refl _)
  exact ⟨[], s, rfl, rfl, by rw [split, first, List.nil_append]⟩

/-- **A line that is cut at the start of a token has this token and those behind it.**
The token under construction is the only one that does not start in what is left. -/
theorem exists_restart {before after : List Token}
    (split : scan position inQuotes current s = before ++ t :: after)
    (sane : current = none → inQuotes = false) :
    (∃ o ∈ current, o.1 = t.start) ∨ Restarts t after position s := by
  induction s generalizing position inQuotes current before with
  | nil =>
      have closed : close current = before ++ t :: after := split
      exact .inl (exists_mem_of_mem_close (closed ▸ by simp))
  | cons c s ih =>
      -- Where no token was under construction, a character that is not blank starts one.
      have started {inQuotes' : Bool} {text : List Char} (next : scan position inQuotes current
            (c :: s) = scan (position + 1) inQuotes' (some (origin position current, text)) s) :
          (∃ o ∈ current, o.1 = t.start) ∨ Restarts t after position (c :: s) := by
        rcases ih (next.symm.trans split) (fun h => nomatch h) with ⟨_, same, start⟩ | later
        · cases same
          rcases current with _ | o
          · obtain rfl := sane rfl
            obtain rfl : position = t.start := start
            exact .inr (restarts_first split)
          · exact .inl ⟨o, rfl, start⟩
        · exact .inr (later.cons c)
      rcases scan_cons position inQuotes current c s with
        ⟨-, next⟩ | ⟨-, -, next⟩ | ⟨-, -, next⟩
      · exact started next
      · rw [next] at split
        have later (before : List Token)
            (split : scan (position + 1) false none s = before ++ t :: after) :=
          (ih split fun _ => rfl).resolve_left fun ⟨o, isNone, _⟩ => nomatch isNone
        rcases List.append_eq_append_iff.1 split with
          ⟨between, -, split⟩ | ⟨closing, closed, split⟩
        · exact .inr ((later _ split).cons c)
        · cases closing with
          | nil => exact .inr ((later [] split.symm).cons c)
          | cons x closing =>
              obtain ⟨rfl, -⟩ := List.cons.inj split
              exact .inl (exists_mem_of_mem_close (closed ▸ by simp))
      · exact started next

/-- A token that starts where a line does starts with a character that is not blank. -/
theorem solid_of_start {after : List Token} (first : scan t.start false none s = t :: after)
    (head : s.head? = some c) : isBlank c = false := by
  obtain ⟨rest, rfl⟩ := List.head?_eq_some_iff.1 head
  refine Bool.eq_false_iff.2 fun blank => ?_
  rw [scan_gap blank] at first
  have behind :=
    origin_le_start (before_none (t.start + 1)) (show t ∈ _ from first ▸ List.mem_cons_self)
  exact absurd behind (Nat.not_succ_le_self _)

/-- **What is left of a line from the start of a token on.** -/
theorem restart {before after : List Token} (split : ofChars s = before ++ t :: after) :
    (ofChars (s.drop t.start)).map (shift t.start) = t :: after
      ∧ ∀ c, (s.drop t.start).head? = some c → isBlank c = false := by
  obtain ⟨o, isNone, -⟩ | ⟨skipped, rest, rfl, start, same⟩ := exists_restart split fun _ => rfl
  · cases isNone
  · rw [Nat.zero_add] at start
    rw [start, List.drop_left, ← start, ← scan_eq_map_shift]
    exact ⟨same, fun c head => solid_of_start same head⟩

/-! ## Texts -/

/-- **The text of a token has characters of the line, at least one, and no backtick.** -/
theorem text_of_mem (member : t ∈ scan position inQuotes current s)
    (noTick : '`' ∉ pending current) :
    t.text.toList ≠ [] ∧ '`' ∉ t.text.toList
      ∧ ∀ c ∈ t.text.toList, c ∈ pending current ∨ c ∈ s := by
  have closed {current : Open} {s : List Char} (noTick : '`' ∉ pending current)
      (member : t ∈ close current) : t.text.toList ≠ [] ∧ '`' ∉ t.text.toList
        ∧ ∀ c ∈ t.text.toList, c ∈ pending current ∨ c ∈ s := by
    obtain ⟨filled, rfl⟩ := mem_close 0 member
    rw [String.toList_ofList]
    exact ⟨filled, noTick, fun c inside => .inl inside⟩
  induction s generalizing position inQuotes current with
  | nil => exact closed noTick member
  | cons c s ih =>
      rcases scan_cons position inQuotes current c s with
        ⟨-, next⟩ | ⟨-, -, next⟩ | ⟨other, -, next⟩
      · rw [next] at member
        obtain ⟨filled, clean, from_⟩ := ih member noTick
        refine ⟨filled, clean, fun d inside => ?_⟩
        exact (from_ d inside).imp_right (List.mem_cons_of_mem _)
      · rw [next, List.mem_append] at member
        rcases member with here | later
        · exact closed noTick here
        · obtain ⟨filled, clean, from_⟩ := ih later List.not_mem_nil
          refine ⟨filled, clean, fun d inside => ?_⟩
          exact .inr (List.mem_cons_of_mem _ ((from_ d inside).resolve_left List.not_mem_nil))
      · have stillClean : '`' ∉ pending current ++ [c] := by
          rw [List.mem_append, List.mem_singleton]
          exact fun h => h.elim noTick (Ne.symm other)
        rw [next] at member
        obtain ⟨filled, clean, from_⟩ := ih member stillClean
        refine ⟨filled, clean, fun d inside => ?_⟩
        rcases from_ d inside with earlier | later
        · rcases List.mem_append.1 earlier with earlier | same
          · exact .inl earlier
          · exact .inr (List.mem_singleton.1 same ▸ List.mem_cons_self)
        · exact .inr (List.mem_cons_of_mem _ later)

/-- A token of a line without backticks has no blank. -/
theorem not_blank_of_mem (member : t ∈ scan position false current s) (noTick : '`' ∉ s)
    (pendingSolid : ∀ c ∈ pending current, isBlank c = false) :
    ∀ c ∈ t.text.toList, isBlank c = false := by
  have closed {current : Open} (pendingSolid : ∀ c ∈ pending current, isBlank c = false)
      (member : t ∈ close current) : ∀ c ∈ t.text.toList, isBlank c = false := by
    obtain ⟨-, rfl⟩ := mem_close 0 member
    rwa [String.toList_ofList]
  induction s generalizing position current with
  | nil => exact closed pendingSolid member
  | cons c s ih =>
      rw [List.mem_cons, not_or] at noTick
      rcases scan_cons position false current c s with
        ⟨tick, -⟩ | ⟨-, -, next⟩ | ⟨-, solid, next⟩
      · exact absurd tick.symm noTick.1
      · rw [next, List.mem_append] at member
        rcases member with here | later
        · exact closed pendingSolid here
        · exact ih later noTick.2 fun _ h => nomatch h
      · rw [next] at member
        refine ih member noTick.2 ?_
        exact List.forall_mem_append.2 ⟨pendingSolid, List.forall_mem_singleton.2 (solid rfl)⟩

/-- A token that has text is the first one, however it goes on. -/
theorem scan_open (filled : text ≠ []) :
    ∃ more after, scan position inQuotes (some (start, text)) s
      = ⟨String.ofList (text ++ more), start⟩ :: after := by
  induction s generalizing position inQuotes text with
  | nil => exact ⟨[], [], by rw [List.append_nil]; exact close_some start filled⟩
  | cons d s ih =>
      rcases scan_cons position inQuotes (some (start, text)) d s with
        ⟨-, next⟩ | ⟨-, -, next⟩ | ⟨-, -, next⟩
      · rw [next]
        exact ih filled
      · rw [next, close_some start filled]
        exact ⟨[], _, by rw [List.append_nil]; rfl⟩
      · rw [next]
        obtain ⟨more, after, is⟩ := @ih (position + 1) inQuotes (text ++ [d])
          (List.append_ne_nil_of_left_ne_nil filled [d])
        rw [List.append_assoc] at is
        exact ⟨d :: more, after, is⟩

/-- A line that starts with a character of a word starts with a token. -/
theorem exists_first (position : Nat) (s : List Char) (isWord : IsWordChar c) :
    ∃ more after, scan position false none (c :: s)
      = ⟨String.ofList (c :: more), position⟩ :: after := by
  rw [scan_solid isWord.1 fun _ => isWord.2]
  exact scan_open (List.cons_ne_nil c [])

/-- **Every character that is not blank and no backtick is in a token that does not start
behind it.** -/
theorem exists_token_of_mem (inQuotes : Bool) (a b : List Char) (isWord : IsWordChar c)
    (before : ∀ o ∈ current, o.1 < position) :
    ∃ t ∈ scan position inQuotes current (a ++ c :: b),
      c ∈ t.text.toList ∧ t.start ≤ position + a.length := by
  induction a generalizing position inQuotes current with
  | nil =>
      have filled : pending current ++ [c] ≠ [] :=
        List.append_ne_nil_of_right_ne_nil _ (List.cons_ne_nil c [])
      rw [List.nil_append, scan_solid isWord.1 fun _ => isWord.2, extend_eq]
      obtain ⟨more, after, is⟩ : ∃ more after, scan (position + 1) inQuotes
          (some (origin position current, pending current ++ [c])) b = _ :: after :=
        scan_open filled
      rw [is]
      refine ⟨_, List.mem_cons_self, ?_, Nat.le_of_lt_succ (origin_lt_succ before)⟩
      simp
  | cons d a ih =>
      have behind {t : Token} (start : t.start ≤ position + 1 + a.length) :
          t.start ≤ position + (d :: a).length := by
        rw [List.length_cons]
        omega
      rw [List.cons_append]
      rcases scan_cons position inQuotes current d (a ++ c :: b) with
        ⟨-, next⟩ | ⟨-, -, next⟩ | ⟨-, -, next⟩
      · obtain ⟨t, member, inside, start⟩ := ih (!inQuotes) (before_some before (pending current))
        exact ⟨t, next ▸ member, inside, behind start⟩
      · obtain ⟨t, member, inside, start⟩ := ih false (before_none (position + 1))
        exact ⟨t, next ▸ List.mem_append_right _ member, inside, behind start⟩
      · obtain ⟨t, member, inside, start⟩ :=
          ih inQuotes (before_some before (pending current ++ [d]))
        exact ⟨t, next ▸ member, inside, behind start⟩

/-- Only the first token starts where the line does. -/
theorem index_eq_zero_of_start {i : Nat} (there : (ofChars s)[i]? = some t) (first : t.start = 0) :
    i = 0 := by
  obtain ⟨inside, is⟩ := List.getElem?_eq_some_iff.1 there
  have split : ofChars s = (ofChars s).take i ++ t :: (ofChars s).drop (i + 1) := by
    rw [← is, ← List.drop_eq_getElem_cons inside, List.take_append_drop]
  have none := eq_nil_of_start_le split (Nat.le_of_eq first)
  rcases List.take_eq_nil_iff.1 none with zero | empty
  · exact zero
  · rw [empty] at inside
    cases inside

/-- A line without backticks that neither starts nor ends with a blank is its token, if it
has only one. -/
theorem text_of_single (noTick : '`' ∉ s) (head : ∀ c, s.head? = some c → isBlank c = false)
    (last : ∀ c, s.getLast? = some c → isBlank c = false) (single : ofChars s = [t]) :
    t.text = String.ofList s := by
  have isWord {c : Char} (inside : c ∈ s) (solid : isBlank c = false) : IsWordChar c :=
    ⟨fun tick => noTick (tick ▸ inside), solid⟩
  -- The word at the start of the line, and what is behind it.
  have whole := List.takeWhile_append_dropWhile (p := fun c => !isBlank c) (l := s)
  have solid : ∀ c ∈ s.takeWhile (fun c => !isBlank c), IsWordChar c := fun c inside =>
    isWord (List.takeWhile_subset _ inside)
      (by simpa using List.all_eq_true.1 List.all_takeWhile c inside)
  have filled : s.takeWhile (fun c => !isBlank c) ≠ [] := by
    cases s with
    | nil => cases single
    | cons c s => simp [head c rfl]
  cases behind : s.dropWhile (fun c => !isBlank c) with
  | nil =>
      rw [behind, List.append_nil] at whole
      rw [← whole, ofChars, scan_word solid filled] at single
      cases single
      rw [whole]
  | cons c rest =>
      have blank : isBlank c = true := by
        have stops := List.head?_dropWhile_not (fun c => !isBlank c) s
        rw [behind] at stops
        simpa using stops
      rw [behind] at whole
      -- The last character of the line is not this blank, so there is one more token.
      rcases List.eq_nil_or_concat' rest with rfl | ⟨front, d, rfl⟩
      · have isLast := last c (by rw [← whole]; simp)
        rw [blank] at isLast
        cases isLast
      · have isLast : isBlank d = false := by
          refine last d ?_
          rw [← whole, ← List.cons_append, ← List.append_assoc,
            List.getLast?_append_of_ne_nil _ (List.cons_ne_nil _ _)]
          rfl
        have inside : d ∈ s := by rw [← whole]; simp
        obtain ⟨u, there, -⟩ := exists_token_of_mem false front [] (isWord inside isLast)
          (before_none (0 + (s.takeWhile fun c => !isBlank c).length + 1))
        rw [← whole, ofChars, scan_word_gap solid filled blank] at single
        rw [(List.cons.inj single).2] at there
        cases there

end PromptPipeline.Grammar.Token
