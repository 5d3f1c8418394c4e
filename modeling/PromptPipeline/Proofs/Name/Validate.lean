/-
# Proofs.Name.Validate -- which texts are parameter names

A text is a name if, without what encloses it, it has no mark and its camel case is neither
empty nor reserved (`validate_ok_iff`).  Camel case has no marks (`not_mark_of_camelChars`),
so a name between braces is read as the name in camel case again (`validate_braced_iff`),
which need not be the same name.
-/
import PromptPipeline.Name.Basic
import PromptPipeline.Grammar.Error
import PromptPipeline.Proofs.Text.Trim
import PromptPipeline.Proofs.Unicode.Table

namespace PromptPipeline

set_option autoImplicit false

/-! ## Marks -/

namespace Name

open Unicode

/-- A character that is no part of a name: white space, a quotation mark, a bracket, a
dot or a slash. -/
def isMark (c : Char) : Bool :=
  isBlank c || isBracket c || ['`', '.', '/', '\\'].contains c

/-- The code points of the marks. -/
def markCodes : List Nat :=
  (List.range' 0x9 5) ++ [0x20, 0x28, 0x29, 0x2E, 0x2F, 0x3C, 0x3E, 0x5B, 0x5C, 0x5D, 0x60, 0x7B,
    0x7D, 0x85, 0xA0, 0x1680] ++ (List.range' 0x2000 11)
    ++ [0x2028, 0x2029, 0x202F, 0x205F, 0x3000]

theorem mem_markCodes {c : Char} (mark : isMark c = true) : c.toNat ∈ markCodes := by
  unfold isMark isBracket at mark
  rcases Bool.or_eq_true_iff.1 mark with mark | other
  · rcases Bool.or_eq_true_iff.1 mark with blank | bracket
    · have table : ∀ s ∈ whiteSpace, ∀ k ≤ s.last - s.first, s.first + k ∈ markCodes := by
        decide
      obtain ⟨s, member, inside⟩ := exists_stretch blank
      obtain ⟨low, high⟩ := Stretch.bounds_of_contains inside
      have code := table s member (c.toNat - s.first) (Nat.sub_le_sub_right high _)
      rwa [Nat.add_sub_cancel' low] at code
    · have table : ∀ d ∈ ['(', ')', '\x7b', '\x7d', '[', ']', '<', '>'], d.toNat ∈ markCodes := by
        decide
      exact table c (List.contains_iff_mem.1 bracket)
  · have table : ∀ d ∈ ['`', '.', '/', '\\'], d.toNat ∈ markCodes := by decide
    exact table c (List.contains_iff_mem.1 other)

theorem mem_markCodes_ofNat {n : Nat} (mark : isMark (Char.ofNat n) = true) : n ∈ markCodes := by
  have code := mem_markCodes mark
  -- A number that is no code point stands for the null character, which is no mark.
  by_cases valid : n.isValidChar
  · rwa [Char.ofNat, dif_pos valid] at code
  · rw [Char.ofNat, dif_neg valid] at code
    exact absurd code (by decide)

theorem not_mark_of_isAlphanumeric {c : Char} (letter : isAlphanumeric c = true) :
    isMark c = false := by
  have table : ∀ n ∈ markCodes,
      CodeSet.contains alphabetic n = false ∧ CodeSet.contains number n = false := by
    decide +kernel
  refine Bool.eq_false_iff.2 fun mark => ?_
  obtain ⟨noLetter, noNumber⟩ := table _ (mem_markCodes mark)
  rw [isAlphanumeric, isAlphabetic, isNumber, noLetter, noNumber] at letter
  cases letter

/-! ## Images of letters -/

/-- The tables of a case mapping have no mark among their images. -/
def Unmarked (expansions : List (Nat × List Nat)) (shifts : List Shift) : Prop :=
  (∀ x ∈ expansions, ∀ n ∈ x.2, n ∉ markCodes)
    ∧ ∀ s ∈ shifts, ∀ n ∈ markCodes,
      ¬(s.image ≤ n ∧ n ≤ s.image + (s.source.last - s.source.first))

/-- **The image of a letter has no mark.** -/
theorem not_mark_of_image {expansions : List (Nat × List Nat)} {shifts : List Shift}
    (unmarked : Unmarked expansions shifts) {c d : Char} (letter : isAlphanumeric c = true)
    (image : d ∈ caseImage expansions shifts c) : isMark d = false := by
  obtain ⟨expanded, shifted⟩ := unmarked
  refine Bool.eq_false_iff.2 fun mark => ?_
  rcases mem_caseImage image with ⟨x, entry, n, inside, rfl⟩ | ⟨rfl, -⟩ | ⟨s, member, inside, rfl⟩
  · exact expanded x entry n inside (mem_markCodes_ofNat mark)
  · rw [not_mark_of_isAlphanumeric letter] at mark
    cases mark
  · obtain ⟨-, high⟩ := Stretch.bounds_of_contains inside
    refine shifted s member _ (mem_markCodes_ofNat mark) ⟨Nat.le_add_right _ _, ?_⟩
    exact Nat.add_le_add_left (Nat.sub_le_sub_right high _) _

instance (expansions : List (Nat × List Nat)) (shifts : List Shift) :
    Decidable (Unmarked expansions shifts) :=
  inferInstanceAs (Decidable (_ ∧ _))

/-- **No letter of either case has a mark for its image.** -/
theorem unmarked_cases :
    Unmarked upperExpansions upperShifts ∧ Unmarked lowerExpansions lowerShifts := by
  decide +kernel

theorem not_mark_of_camelRest {s : List Char} {boundary afterLower : Bool} :
    ∀ c ∈ camelRest boundary afterLower s, isMark c = false := by
  induction s generalizing boundary afterLower with
  | nil => exact fun c h => nomatch h
  | cons c s ih =>
      rw [camelRest]
      split
      · rename_i letter
        refine List.forall_mem_append.2 ⟨?_, ih⟩
        split
        · exact fun d image => not_mark_of_image unmarked_cases.1 letter image
        · exact fun d image => not_mark_of_image unmarked_cases.2 letter image
      · exact ih

/-- **Camel case has no marks.** -/
theorem not_mark_of_camelChars {s : List Char} : ∀ c ∈ camelChars s, isMark c = false := by
  induction s with
  | nil => exact fun c h => nomatch h
  | cons c s ih =>
      rw [camelChars]
      split
      · rename_i letter
        refine List.forall_mem_append.2 ⟨?_, not_mark_of_camelRest⟩
        exact fun d image => not_mark_of_image unmarked_cases.2 letter image
      · exact ih

/-! ## Validation -/

/-- A text without the white space and the brackets around it. -/
def bare (raw : String) : List Char :=
  enclosings.foldl (fun s pair => unwrap pair s) (Text.strip isBlank raw.toList)

/-- **Which texts are names.** -/
theorem validate_ok_iff {raw name : String} :
    validate raw = .ok name
      ↔ ('.' ∉ bare raw ∧ '/' ∉ bare raw ∧ '\\' ∉ bare raw ∧ ∀ c ∈ bare raw, isBracket c = false)
        ∧ String.ofList (camelChars (bare raw)) = name ∧ name ≠ "" ∧ isReserved name = false := by
  unfold validate bare
  dsimp only
  generalize enclosings.foldl (fun s pair => unwrap pair s) (Text.strip isBlank raw.toList) = s
  constructor
  · intro valid
    split at valid
    · cases valid
    · rename_i dots
      split at valid
      · cases valid
      · rename_i slashes
        split at valid
        · cases valid
        · rename_i brackets
          split at valid
          · cases valid
          · rename_i filled
            split at valid
            · cases valid
            · rename_i free
              cases valid
              rw [Bool.or_eq_true, not_or] at slashes
              refine ⟨⟨by simpa using dots, by simpa using slashes.1, by simpa using slashes.2,
                by simpa using brackets⟩, rfl, ?_, by simpa using free⟩
              exact fun empty => filled (by rw [empty]; rfl)
  · rintro ⟨⟨dots, slash, backslash, brackets⟩, rfl, filled, free⟩
    rw [if_neg (by simpa using dots), if_neg (by simp [slash, backslash]),
      if_neg (by simpa using brackets), if_neg (by simpa using filled), if_neg (by simp [free])]

/-! ## Names between braces -/

theorem unwrap_of_ne (pair : Char × Char) {s : List Char} (other : s.head? ≠ some pair.1) :
    unwrap pair s = s := by
  cases s with
  | nil => rfl
  | cons c s =>
      rw [unwrap, if_neg]
      rintro ⟨rfl, -⟩
      exact other rfl

/-- A text between braces is, without them, the text itself, if it does not start with
another bracket. -/
theorem bare_braced {raw : String} {s : List Char} (is : raw.toList = '\x7b' :: (s ++ ['\x7d']))
    (plain : ∀ pair ∈ [('[', ']'), ('(', ')'), ('<', '>')], s.head? ≠ some pair.1) :
    bare raw = s := by
  have trimmed : Text.Trimmed isBlank raw.toList := by
    rw [is, ← List.cons_append]
    refine ⟨fun c first => ?_, fun c last => ?_⟩
    · obtain rfl : '\x7b' = c := by simpa using first
      decide
    · rw [List.getLast?_append_of_ne_nil _ (List.cons_ne_nil _ _)] at last
      cases last
      decide
  rw [bare, Text.strip_eq_self trimmed, is]
  simp only [enclosings, List.foldl_cons, List.foldl_nil]
  rw [unwrap_of_ne ('`', '`') (by simp)]
  have inner : unwrap ('\x7b', '\x7d') ('\x7b' :: (s ++ ['\x7d'])) = s := by simp [unwrap]
  rw [inner, unwrap_of_ne _ (plain ('[', ']') (by simp)),
    unwrap_of_ne _ (plain ('(', ')') (by simp)), unwrap_of_ne _ (plain ('<', '>') (by simp))]

/-- **A name between braces is read as the name in camel case.** -/
theorem validate_braced_iff {name read : String} (plain : ∀ c ∈ name.toList, isMark c = false) :
    validate (braced name) = .ok read
      ↔ camelCase name = read ∧ read ≠ "" ∧ isReserved read = false := by
  have solid : bare (braced name) = name.toList := by
    refine bare_braced (by simp [braced]) fun pair among first => ?_
    have mark : isMark pair.1 = true :=
      (by decide : ∀ pair ∈ [('[', ']'), ('(', ')'), ('<', '>')], isMark pair.1 = true) pair among
    rw [plain _ (List.mem_of_head? first)] at mark
    cases mark
  have absent {c : Char} (mark : isMark c = true) : c ∉ name.toList := fun inside => by
    rw [plain c inside] at mark
    cases mark
  have brackets : ∀ c ∈ name.toList, isBracket c = false := fun c inside => by
    have mark := plain c inside
    unfold isMark at mark
    rw [Bool.or_eq_false_iff, Bool.or_eq_false_iff] at mark
    exact mark.1.2
  rw [validate_ok_iff, solid,
    and_iff_right ⟨absent (by decide), absent (by decide), absent (by decide), brackets⟩]
  rfl

/-- The name that a text stands for has no marks. -/
theorem not_mark_of_validate {raw name : String} (valid : validate raw = .ok name) :
    ∀ c ∈ name.toList, isMark c = false := by
  obtain ⟨-, rfl, -⟩ := validate_ok_iff.1 valid
  rw [String.toList_ofList]
  exact not_mark_of_camelChars

end Name

end PromptPipeline
