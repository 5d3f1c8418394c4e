/-
# Proofs.Markdown.Lines -- a source that is written line by line

Lines that are written with a line feed behind each are read back as these lines,
each at the byte where it was written (`linesOf_unlines`), and so is a line that stands
alone (`linesOf_line`).
-/
import PromptPipeline.Markdown.Line
import Mathlib.Tactic.Cases

namespace PromptPipeline

set_option autoImplicit false

namespace Text

@[simp] theorem byteLength_nil : byteLength [] = 0 := rfl

@[simp] theorem byteLength_cons (c : Char) (s : List Char) :
    byteLength (c :: s) = c.utf8Size + byteLength s := rfl

@[simp] theorem byteLength_append (s t : List Char) :
    byteLength (s ++ t) = byteLength s + byteLength t := by
  induction s with
  | nil => simp
  | cons c s ih =>
      rw [List.cons_append, byteLength_cons, ih, byteLength_cons]
      omega

end Text

namespace Markdown

/-- A line has no line end in it. -/
def IsLine (s : List Char) : Prop := '\n' ∉ s ∧ '\r' ∉ s

instance (s : List Char) : Decidable (IsLine s) := inferInstanceAs (Decidable (_ ∧ _))

theorem IsLine.of_subset {s t : List Char} (isLine : IsLine s) (known : ∀ c ∈ t, c ∈ s) :
    IsLine t :=
  ⟨fun feed => isLine.1 (known _ feed), fun ret => isLine.2 (known _ ret)⟩

/-- The text of lines, each with a line feed behind it. -/
def unlines (lines : List (List Char)) : List Char := lines.flatMap (· ++ ['\n'])

/-- Lines with the bytes at which they start, the first at `offset`. -/
def linesAt (offset : Nat) : List (List Char) → List Line
  | [] => []
  | s :: rest => ⟨offset, s, ['\n']⟩ :: linesAt (offset + Text.byteLength s + 1) rest

@[simp] theorem unlines_nil : unlines [] = [] := rfl

@[simp] theorem unlines_cons (s : List Char) (rest : List (List Char)) :
    unlines (s :: rest) = s ++ '\n' :: unlines rest := by
  simp [unlines]

@[simp] theorem unlines_append (a b : List (List Char)) :
    unlines (a ++ b) = unlines a ++ unlines b := by
  simp [unlines]

theorem linesAt_append (offset : Nat) (a b : List (List Char)) :
    linesAt offset (a ++ b)
      = linesAt offset a ++ linesAt (offset + Text.byteLength (unlines a)) b := by
  induction a generalizing offset with
  | nil => simp [linesAt]
  | cons s rest ih =>
      have newline : Char.utf8Size '\n' = 1 := by decide
      rw [List.cons_append, linesAt, linesAt, ih, List.cons_append, unlines_cons,
        Text.byteLength_append, Text.byteLength_cons, newline]
      congr 3
      omega

/-- A line with what ends it. -/
def Line.whole (line : Line) : List Char := line.chars ++ line.feed

theorem flatMap_linesAt (offset : Nat) (lines : List (List Char)) :
    (linesAt offset lines).flatMap Line.whole = unlines lines := by
  induction lines generalizing offset with
  | nil => rfl
  | cons s rest ih =>
      rw [linesAt, List.flatMap_cons, ih, unlines_cons]
      simp [Line.whole, Line.feed]

theorem chars_of_mem_linesAt {offset : Nat} {lines : List (List Char)} {line : Line}
    (member : line ∈ linesAt offset lines) : line.chars ∈ lines := by
  induction lines generalizing offset with
  | nil => cases member
  | cons s rest ih =>
      rcases List.mem_cons.1 member with rfl | later
      · exact List.mem_cons_self
      · exact List.mem_cons_of_mem _ (ih later)

theorem splitLines_cons {c : Char} (newline : c ≠ '\n') (carriageReturn : c ≠ '\r') (offset : Nat)
    (line rest : List Char) :
    splitLines offset line (c :: rest) = splitLines offset (c :: line) rest := by
  rw [splitLines]
  · exact newline
  · exact fun _ h => absurd h carriageReturn
  · exact carriageReturn

theorem splitLines_line {s : List Char} (isLine : IsLine s) (offset : Nat)
    (line rest : List Char) :
    splitLines offset line (s ++ '\n' :: rest)
      = ⟨offset, line.reverse ++ s, ['\n']⟩
        :: splitLines (offset + Text.byteLength line + Text.byteLength s + 1) [] rest := by
  induction s generalizing line with
  | nil => simp [splitLines]
  | cons c s ih =>
      obtain ⟨newline, carriageReturn⟩ := isLine
      have others : IsLine s :=
        ⟨fun h => newline (List.mem_cons_of_mem _ h),
          fun h => carriageReturn (List.mem_cons_of_mem _ h)⟩
      have first : c ≠ '\n' := fun h => newline (h ▸ List.mem_cons_self)
      have first' : c ≠ '\r' := fun h => carriageReturn (h ▸ List.mem_cons_self)
      rw [List.cons_append, splitLines_cons first first', ih others]
      simp only [List.reverse_cons, List.append_assoc, List.singleton_append, Text.byteLength_cons]
      congr 3
      omega

/-- The last line needs no line end. -/
theorem splitLines_last {s : List Char} (isLine : IsLine s) (offset : Nat) {line : List Char}
    (filled : line ++ s ≠ []) :
    splitLines offset line s = [⟨offset, line.reverse ++ s, []⟩] := by
  induction s generalizing line with
  | nil =>
      rw [List.append_nil] at filled ⊢
      rw [splitLines, if_neg (fun none => filled (List.isEmpty_iff.1 none))]
  | cons c s ih =>
      have others : IsLine s := isLine.of_subset fun _ => List.mem_cons_of_mem _
      have first : c ≠ '\n' := fun h => isLine.1 (h ▸ List.mem_cons_self)
      have first' : c ≠ '\r' := fun h => isLine.2 (h ▸ List.mem_cons_self)
      rw [splitLines_cons first first', ih others (by simp)]
      simp

/-- **A line without a line end is read as this line.** -/
theorem linesOf_line {s : List Char} (isLine : IsLine s) (filled : s ≠ []) :
    linesOf s = [⟨0, s, []⟩] :=
  splitLines_last isLine 0 filled

/-- **Lines that are written are read back.** -/
theorem linesOf_unlines {lines : List (List Char)} (isLine : ∀ s ∈ lines, IsLine s) :
    linesOf (unlines lines) = linesAt 0 lines := by
  have atAny : ∀ offset, splitLines offset [] (unlines lines) = linesAt offset lines := by
    induction lines with
    | nil => intro offset; rfl
    | cons s rest ih =>
        intro offset
        obtain ⟨first, others⟩ := List.forall_mem_cons.1 isLine
        rw [unlines_cons, splitLines_line first, ih others, linesAt]
        simp
  exact atAny 0

end Markdown

end PromptPipeline
