/-
# Proofs.Text.Split -- splitting and joining of texts
-/
import PromptPipeline.Text.Basic
import Mathlib.Tactic.Cases

namespace PromptPipeline.Text

set_option autoImplicit false

/-! ## Splitting -/

theorem splitAt_ne_nil (p : Char → Bool) (s : List Char) : splitAt p s ≠ [] := by
  cases s with
  | nil => exact List.cons_ne_nil _ _
  | cons c rest =>
      change (if p c then [] :: splitAt p rest else _) ≠ []
      split
      · simp
      · split
        · simp
        · simp

/-- A character that separates starts a new piece, another one goes on with the first. -/
theorem splitAt_cons (p : Char → Bool) (c : Char) (rest : List Char) :
    ∃ piece pieces, splitAt p rest = piece :: pieces
      ∧ splitAt p (c :: rest)
        = if p c then [] :: piece :: pieces else (c :: piece) :: pieces := by
  obtain ⟨piece, pieces, is⟩ := List.exists_cons_of_ne_nil (splitAt_ne_nil p rest)
  refine ⟨piece, pieces, is, ?_⟩
  change (if p c then [] :: splitAt p rest else _) = _
  rw [is]

/-- Before a character that separates the text is split as if it ended there. -/
theorem splitAt_append {separator : Char} (a b : List Char) :
    splitAt (· == separator) (a ++ separator :: b)
      = splitAt (· == separator) a ++ splitAt (· == separator) b := by
  induction a with
  | nil => exact if_pos (beq_self_eq_true separator)
  | cons c a ih =>
      obtain ⟨piece, pieces, is, cons⟩ := splitAt_cons (· == separator) c a
      obtain ⟨piece', pieces', is', cons'⟩ :=
        splitAt_cons (· == separator) c (a ++ separator :: b)
      rw [List.cons_append, cons', cons]
      rw [is', is] at ih
      obtain ⟨rfl, rfl⟩ := List.cons.inj ih
      split
      · rfl
      · rfl

/-- No piece has a character that separates. -/
theorem separates_of_mem_splitAt {p : Char → Bool} {s piece : List Char}
    (member : piece ∈ splitAt p s) : ∀ c ∈ piece, p c = false := by
  induction s generalizing piece with
  | nil =>
      obtain rfl : piece = [] := List.mem_singleton.1 member
      exact fun c h => nomatch h
  | cons c s ih =>
      obtain ⟨first, pieces, is, cons⟩ := splitAt_cons p c s
      rw [is] at ih
      rw [cons] at member
      split at member
      · rcases List.mem_cons.1 member with rfl | member
        · exact fun c h => nomatch h
        · exact ih member
      · rename_i stays
        rcases List.mem_cons.1 member with rfl | member
        · intro d hd
          rcases List.mem_cons.1 hd with rfl | hd
          · exact Bool.eq_false_iff.2 stays
          · exact ih List.mem_cons_self d hd
        · exact ih (List.mem_cons_of_mem _ member)

/-! ## Joining -/

theorem joinWith_cons_cons (separator first second : List Char) (rest : List (List Char)) :
    joinWith separator (first :: second :: rest)
      = first ++ separator ++ joinWith separator (second :: rest) := rfl

theorem joinWith_cons (separator first : List Char) {rest : List (List Char)} (more : rest ≠ []) :
    joinWith separator (first :: rest) = first ++ separator ++ joinWith separator rest := by
  obtain ⟨second, others, rfl⟩ := List.exists_cons_of_ne_nil more
  rfl

theorem joinWith_cons_flatMap (separator first : List Char) (rest : List (List Char)) :
    joinWith separator (first :: rest) = first ++ rest.flatMap (separator ++ ·) := by
  induction rest generalizing first with
  | nil => exact (List.append_nil first).symm
  | cons second rest ih =>
      rw [joinWith_cons_cons, ih, List.flatMap_cons]
      simp only [List.append_assoc]

theorem mem_joinWith {separator : List Char} {pieces : List (List Char)} {c : Char}
    (member : c ∈ joinWith separator pieces) : c ∈ separator ∨ ∃ piece ∈ pieces, c ∈ piece := by
  induction pieces with
  | nil => cases member
  | cons first pieces ih =>
      cases pieces with
      | nil => exact .inr ⟨first, List.mem_cons_self, member⟩
      | cons second pieces =>
          rw [joinWith_cons_cons, List.mem_append, List.mem_append] at member
          rcases member with (here | between) | later
          · exact .inr ⟨first, List.mem_cons_self, here⟩
          · exact .inl between
          · rcases ih later with between | ⟨piece, there, inside⟩
            · exact .inl between
            · exact .inr ⟨piece, List.mem_cons_of_mem _ there, inside⟩

theorem infix_joinWith (separator : List Char) {pieces : List (List Char)} {piece : List Char}
    (member : piece ∈ pieces) : piece <:+: joinWith separator pieces := by
  induction pieces with
  | nil => cases member
  | cons first pieces ih =>
      cases pieces with
      | nil =>
          obtain rfl := List.mem_singleton.1 member
          exact List.infix_rfl
      | cons second pieces =>
          rw [joinWith_cons_cons]
          rcases List.mem_cons.1 member with rfl | member
          · rw [List.append_assoc]
            exact List.infix_append_left
          · exact (ih member).trans (List.suffix_append _ _).isInfix

theorem joinWith_append (separator : List Char) {a b : List (List Char)} (left : a ≠ [])
    (right : b ≠ []) :
    joinWith separator (a ++ b) = joinWith separator a ++ separator ++ joinWith separator b := by
  induction a with
  | nil => exact absurd rfl left
  | cons first a ih =>
      cases a with
      | nil =>
          obtain ⟨second, rest, rfl⟩ := List.exists_cons_of_ne_nil right
          rfl
      | cons second a =>
          rw [List.cons_append, List.cons_append, joinWith_cons_cons, ← List.cons_append,
            ih (List.cons_ne_nil _ _), joinWith_cons_cons]
          simp only [List.append_assoc]

/-- The pieces of a text joined by what separates them are the text. -/
theorem joinWith_splitAt (separator : Char) (s : List Char) :
    joinWith [separator] (splitAt (· == separator) s) = s := by
  induction s with
  | nil => rfl
  | cons c s ih =>
      obtain ⟨piece, pieces, is, cons⟩ := splitAt_cons (· == separator) c s
      rw [is] at ih
      rw [cons]
      split
      · rename_i separates
        rw [joinWith_cons_cons, ih, beq_iff_eq.1 separates]
        rfl
      · cases pieces with
        | nil => exact congrArg _ ih
        | cons second pieces =>
            rw [joinWith_cons_cons] at ih ⊢
            rw [List.cons_append, List.cons_append, ih]

/-! ## Runs -/

section Between

variable {p : Char → Bool} {c d : Char} {s run : List Char} {runs : List (List Char)}

theorem runsBetween_of_separator (separates : p c = true) (s : List Char) :
    runsBetween p (c :: s) = runsBetween p s := if_pos separates

/-- Before a character that separates, or at the end, a run has one character. -/
theorem runsBetween_start (stays : p c = false) (ends : ∀ d ∈ s.head?, p d = true) :
    runsBetween p (c :: s) = [c] :: runsBetween p s := by
  have first : ¬p c = true := Bool.eq_false_iff.1 stays
  cases s with
  | nil => exact if_neg first
  | cons d s => exact (if_neg first).trans (if_pos (ends d rfl))

theorem runsBetween_longer (stays : p c = false) (goesOn : p d = false)
    (is : runsBetween p (d :: s) = run :: runs) :
    runsBetween p (c :: d :: s) = (c :: run) :: runs := by
  have first : ¬p c = true := Bool.eq_false_iff.1 stays
  have second : ¬p d = true := Bool.eq_false_iff.1 goesOn
  refine (if_neg first).trans ((if_neg second).trans ?_)
  rw [is]

/-- A text starts with a run unless it starts with a character that separates. -/
theorem exists_runsBetween_cons (stays : p c = false) (s : List Char) :
    ∃ run runs, runsBetween p (c :: s) = (c :: run) :: runs := by
  induction s generalizing c with
  | nil => exact ⟨_, _, runsBetween_start stays (by simp)⟩
  | cons d s ih =>
      cases second : p d with
      | true => exact ⟨_, _, runsBetween_start stays (by simpa using second)⟩
      | false =>
          obtain ⟨run, runs, is⟩ := ih second
          exact ⟨_, _, runsBetween_longer stays second is⟩

/-- A text has no run exactly if all its characters separate. -/
theorem runsBetween_eq_nil_iff : runsBetween p s = [] ↔ ∀ c ∈ s, p c = true := by
  induction s with
  | nil => exact iff_of_true rfl (List.forall_mem_nil _)
  | cons c s ih =>
      rw [List.forall_mem_cons]
      cases separates : p c with
      | true => rw [runsBetween_of_separator separates, ih]; simp
      | false =>
          obtain ⟨run, runs, is⟩ := exists_runsBetween_cons separates s
          simp [is]

/-- Around a character that separates, the runs are those before and those behind it. -/
theorem runsBetween_append (separates : p c = true) (a b : List Char) :
    runsBetween p (a ++ c :: b) = runsBetween p a ++ runsBetween p b := by
  induction a with
  | nil => exact runsBetween_of_separator separates b
  | cons d a ih =>
      cases first : p d with
      | true =>
          rw [List.cons_append, runsBetween_of_separator first, runsBetween_of_separator first, ih]
      | false =>
          cases a with
          | nil =>
              rw [List.singleton_append, runsBetween_start first (by simpa using separates),
                runsBetween_start first (by simp), runsBetween_of_separator separates]
              rfl
          | cons e a =>
              rw [List.cons_append] at ih
              rw [List.cons_append, List.cons_append]
              cases second : p e with
              | true =>
                  have ends : ∀ f ∈ (e :: a).head?, p f = true := by simpa using second
                  rw [runsBetween_start first ends, runsBetween_start first (by simpa using second),
                    ih, List.cons_append]
              | false =>
                  obtain ⟨run, runs, is⟩ := exists_runsBetween_cons second a
                  rw [is] at ih
                  rw [runsBetween_longer first second is, runsBetween_longer first second ih]
                  rfl

end Between

/-- How the runs of a text stand in it: each behind characters that separate, with at least one
character and as far as no character separates. -/
inductive Runs (p : Char → Bool) : List Char → List (List Char) → Prop
  | none {gap : List Char} (separates : ∀ c ∈ gap, p c = true) : Runs p gap []
  | some {gap run rest : List Char} {runs : List (List Char)} (separates : ∀ c ∈ gap, p c = true)
      (filled : run ≠ []) (stays : ∀ c ∈ run, p c = false)
      (ends : ∀ c ∈ rest.head?, p c = true) (more : Runs p rest runs) :
      Runs p (gap ++ run ++ rest) (run :: runs)

namespace Runs

variable {p : Char → Bool} {c d : Char} {s run : List Char} {runs : List (List Char)}

theorem separator (separates : p c = true) (standing : Runs p s runs) : Runs p (c :: s) runs := by
  cases standing with
  | none gap => exact .none (List.forall_mem_cons.2 ⟨separates, gap⟩)
  | some gap filled stays ends more =>
      exact .some (List.forall_mem_cons.2 ⟨separates, gap⟩) filled stays ends more

theorem start (stays : p c = false) (ends : ∀ d ∈ s.head?, p d = true)
    (standing : Runs p s runs) : Runs p (c :: s) ([c] :: runs) :=
  .some (List.forall_mem_nil _) (List.cons_ne_nil _ _) (List.forall_mem_singleton.2 stays) ends
    standing

theorem longer (stays : p c = false) (goesOn : p d = false)
    (standing : Runs p (d :: s) (run :: runs)) : Runs p (c :: d :: s) ((c :: run) :: runs) := by
  generalize whole : d :: s = text at standing
  cases standing with
  | @some gap _ rest _ separates filled inside ends more =>
      cases gap with
      | cons e gap =>
          obtain ⟨rfl, -⟩ := List.cons.inj whole
          rw [separates d List.mem_cons_self] at goesOn
          cases goesOn
      | nil =>
          exact .some (List.forall_mem_nil _) (List.cons_ne_nil _ _)
            (List.forall_mem_cons.2 ⟨stays, inside⟩) ends more

end Runs

/-- **The runs between characters that separate stand in the text as its runs do.** -/
theorem runs_runsBetween (p : Char → Bool) (s : List Char) : Runs p s (runsBetween p s) := by
  induction s with
  | nil => exact .none (List.forall_mem_nil _)
  | cons c s ih =>
      cases first : p c with
      | true =>
          rw [runsBetween_of_separator first]
          exact ih.separator first
      | false =>
          have alone (ends : ∀ d ∈ s.head?, p d = true) :
              Runs p (c :: s) (runsBetween p (c :: s)) := by
            rw [runsBetween_start first ends]
            exact .start first ends ih
          cases s with
          | nil => exact alone (by simp)
          | cons d s =>
              cases second : p d with
              | true => exact alone (by simpa using second)
              | false =>
                  obtain ⟨run, runs, is⟩ := exists_runsBetween_cons second s
                  rw [is] at ih
                  rw [runsBetween_longer first second is]
                  exact ih.longer first second

end PromptPipeline.Text
