/-
# Proofs.Name.Placeholders -- no placeholder of a body is missed

Three ways to find the placeholders of a body agree: one pass that holds the run since the last
opening brace (`references_eq`), looking for the first placeholder and then behind it for the
next (`leftmost_eq`), and looking at every place whether a placeholder starts there
(`occurrences`).  So the names are found in their order and as often as they stand in the body,
and a name is among them exactly if it stands between braces somewhere (`references_complete`).
-/
import PromptPipeline.Name.Set
import PromptPipeline.Proofs.Name.References

namespace PromptPipeline.Name

set_option autoImplicit false

/-- The names in the placeholders of a text from left to right, behind some characters that
are passed over; each is looked for behind the one before. -/
def leftmost : Nat → List Char → List (List Char)
  | _, [] => []
  | passed + 1, _ :: rest => leftmost passed rest
  | 0, c :: rest =>
      match placeholder? (c :: rest) with
      | some name => name :: leftmost (name.length + 1) rest
      | none => leftmost 0 rest

/-- **Looking behind each placeholder for the next one misses none.** -/
theorem leftmost_eq (passed : Nat) (s : List Char) :
    leftmost passed s = occurrences (s.drop passed) := by
  induction s generalizing passed with
  | nil => cases passed <;> rfl
  | cons c s ih =>
      cases passed with
      | succ passed => rw [leftmost, ih, List.drop_succ_cons]
      | zero =>
          rw [leftmost, List.drop_zero, occurrences_cons]
          cases found : placeholder? (c :: s) with
          | none => exact ih 0
          | some name =>
              obtain ⟨-, isRef, rest, is⟩ := placeholder?_eq_some_iff.1 found
              obtain ⟨rfl, rfl⟩ := List.cons.inj is
              have noOpen : '\x7b' ∉ name ++ ['\x7d'] := by
                intro opens
                rcases List.mem_append.1 opens with here | last
                · exact absurd (isRef _ here) (by decide)
                · exact absurd last (by decide)
              have later := occurrences_passed noOpen rest
              rw [List.append_assoc, List.singleton_append] at later
              simp only [ih, later, ← List.drop_drop, List.drop_left, List.drop_one,
                List.tail_cons]
              rfl

/-- **No placeholder of a body is missed**: the names come one for each placeholder, from left
to right, and they are the words of ASCII letters, digits and underscores that stand between
braces. -/
theorem references_complete (body : String) :
    references body = (leftmost 0 body.toList).map String.ofList
      ∧ references body = (occurrences body.toList).map String.ofList
      ∧ ∀ name : String, name ∈ NameSet.ofList (references body)
        ↔ name ≠ "" ∧ (∀ c ∈ name.toList, c.isAlphanum = true ∨ c = '_')
          ∧ ['\x7b'] ++ name.toList ++ ['\x7d'] <:+: body.toList := by
  refine ⟨?_, references_eq body, fun name => ?_⟩
  · rw [leftmost_eq, List.drop_zero, references_eq]
  · have spelled : (braced name).toList = ['\x7b'] ++ name.toList ++ ['\x7d'] := by simp [braced]
    have isWord : (∀ c ∈ name.toList, isReferenceChar c = true)
        ↔ ∀ c ∈ name.toList, c.isAlphanum = true ∨ c = '_' := by
      simp only [isReferenceChar, Bool.or_eq_true, beq_iff_eq]
    rw [NameSet.mem_ofList, mem_references_iff, spelled, isWord]

/-- Of nested braces the inner ones count, and neighbours do not hide each other. -/
example : references
    (braced (braced "a" ++ braced "b_1") ++ braced "" ++ braced "c d" ++ braced "a")
      = ["a", "b_1", "a"] := by
  decide

end PromptPipeline.Name
