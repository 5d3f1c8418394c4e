/-
# Proofs.Name.References -- what a template body refers to

A placeholder is a name between braces.  Neither brace can be part of a name, so no
placeholder starts inside of another one (`occurrences_passed`), and one pass over a body that
holds the run since the last opening brace finds all of them, in their order and as often as
they stand in the body (`scanReferences_eq`).  So a body refers to a name exactly if the name
is made of ASCII letters, digits and underscores and stands between braces somewhere
(`mem_references_iff`).

Such a name is a parameter name if its camel case is neither empty nor reserved
(`validate_reference_iff`).
-/
import PromptPipeline.Proofs.Name.Validate
import Mathlib.Data.List.Infix
import Mathlib.Data.List.TakeWhile
import Mathlib.Tactic.Cases

namespace PromptPipeline.Name

set_option autoImplicit false

variable {name run rest s : List Char} {c : Char}

/-! ## Placeholders -/

/-- The name in the placeholder with which a text starts: behind the opening brace all
characters of names that follow, at least one, and then the closing brace. -/
def placeholder? : List Char → Option (List Char)
  | [] => none
  | c :: rest =>
      let name := rest.takeWhile isReferenceChar
      if c = '\x7b' ∧ name ≠ [] ∧ (rest.dropWhile isReferenceChar).head? = some '\x7d' then some name
      else none

/-- The names in the placeholders that start anywhere in a text. -/
def occurrences (s : List Char) : List (List Char) := s.tails.filterMap placeholder?

theorem placeholder?_of_ne (other : c ≠ '\x7b') : placeholder? (c :: rest) = none := by
  simp [placeholder?, other]

/-- Behind an opening brace the first character that is not of a name says whether there is a
placeholder. -/
theorem placeholder?_stop (isRef : ∀ d ∈ run, isReferenceChar d = true)
    (noRef : isReferenceChar c = false) :
    placeholder? ('\x7b' :: (run ++ c :: rest))
      = if run ≠ [] ∧ c = '\x7d' then some run else none := by
  have kept : (run ++ c :: rest).takeWhile isReferenceChar = run := by
    rw [List.takeWhile_append_of_pos isRef, List.takeWhile_cons_of_neg (by simp [noRef]),
      List.append_nil]
  have behind : (run ++ c :: rest).dropWhile isReferenceChar = c :: rest := by
    rw [List.dropWhile_append_of_pos isRef, List.dropWhile_cons_of_neg (by simp [noRef])]
  simp [placeholder?, kept, behind]

theorem placeholder?_end (isRef : ∀ d ∈ run, isReferenceChar d = true) :
    placeholder? ('\x7b' :: run) = none := by
  have behind : run.dropWhile isReferenceChar = [] := List.dropWhile_eq_nil_iff.2 isRef
  simp [placeholder?, behind]

/-- **What it is that a text starts with a placeholder.** -/
theorem placeholder?_eq_some_iff :
    placeholder? s = some name
      ↔ name ≠ [] ∧ (∀ d ∈ name, isReferenceChar d = true)
        ∧ ∃ rest, s = '\x7b' :: (name ++ '\x7d' :: rest) := by
  constructor
  · intro found
    cases s with
    | nil => cases found
    | cons c s =>
        rw [placeholder?] at found
        split at found
        · rename_i conditions
          obtain ⟨rfl, filled, closes⟩ := conditions
          obtain rfl := Option.some.inj found
          refine ⟨filled, fun d => List.mem_takeWhile_imp, ?_⟩
          obtain ⟨rest, behind⟩ := List.head?_eq_some_iff.1 closes
          exact ⟨rest, by rw [← behind, List.takeWhile_append_dropWhile]⟩
        · cases found
  · rintro ⟨filled, isRef, rest, rfl⟩
    rw [placeholder?_stop isRef (by decide), if_pos ⟨filled, rfl⟩]

theorem occurrences_cons (c : Char) (s : List Char) :
    occurrences (c :: s) = (placeholder? (c :: s)).toList ++ occurrences s := by
  rw [occurrences, List.tails_cons, List.filterMap_cons]
  split
  · rename_i none
    rw [none]
    rfl
  · rename_i found
    rw [found]
    rfl

/-- **No placeholder starts where there is no opening brace**, so none in another one. -/
theorem occurrences_passed {passed : List Char} (noOpen : '\x7b' ∉ passed) (s : List Char) :
    occurrences (passed ++ s) = occurrences s := by
  induction passed with
  | nil => rfl
  | cons c passed ih =>
      obtain ⟨other, noOpen⟩ := not_or.1 (mt List.mem_cons.2 noOpen)
      rw [List.cons_append, occurrences_cons, placeholder?_of_ne (Ne.symm other), ih noOpen]
      rfl

/-- The names that stand between braces somewhere. -/
theorem mem_occurrences_iff :
    name ∈ occurrences s
      ↔ name ≠ [] ∧ (∀ d ∈ name, isReferenceChar d = true)
        ∧ '\x7b' :: (name ++ ['\x7d']) <:+: s := by
  simp only [occurrences, List.mem_filterMap, List.mem_tails, placeholder?_eq_some_iff]
  constructor
  · rintro ⟨_, ends, filled, isRef, rest, rfl⟩
    exact ⟨filled, isRef, List.infix_iff_prefix_suffix.2 ⟨_, ⟨rest, by simp⟩, ends⟩⟩
  · rintro ⟨filled, isRef, inside⟩
    obtain ⟨_, ⟨rest, rfl⟩, ends⟩ := List.infix_iff_prefix_suffix.1 inside
    exact ⟨_, ends, filled, isRef, rest, by simp⟩

/-! ## One pass -/

/-- One more character: an opening brace starts a run anew, and another one goes on with the run
that is held, or ends it. -/
theorem scanReferences_cons (held : Option (List Char)) (c : Char) (rest : List Char) :
    scanReferences held (c :: rest)
      = if c = '\x7b' then scanReferences (some []) rest
        else match held with
          | none => scanReferences none rest
          | some run =>
              if isReferenceChar c then scanReferences (some (run ++ [c])) rest
              else if c = '\x7d' ∧ run ≠ [] then run :: scanReferences none rest
              else scanReferences none rest := by
  cases held <;> rfl

theorem scanReferences_open (held : Option (List Char)) (rest : List Char) :
    scanReferences held ('\x7b' :: rest) = scanReferences (some []) rest := by
  rw [scanReferences_cons, if_pos rfl]

theorem scanReferences_none (other : c ≠ '\x7b') :
    scanReferences none (c :: rest) = scanReferences none rest := by
  rw [scanReferences_cons, if_neg other]

theorem scanReferences_char (isRef : isReferenceChar c = true) :
    scanReferences (some run) (c :: rest) = scanReferences (some (run ++ [c])) rest := by
  have other : c ≠ '\x7b' := by
    rintro rfl
    exact absurd isRef (by decide)
  rw [scanReferences_cons, if_neg other]
  exact if_pos isRef

theorem scanReferences_close (filled : run ≠ []) :
    scanReferences (some run) ('\x7d' :: rest) = run :: scanReferences none rest := by
  have noRef : ¬isReferenceChar '\x7d' = true := by decide
  rw [scanReferences_cons, if_neg (by decide)]
  dsimp only
  rw [if_neg noRef, if_pos ⟨rfl, filled⟩]

/-- Another character ends the run that was held. -/
theorem scanReferences_break (other : c ≠ '\x7b') (noRef : isReferenceChar c = false)
    (noEnd : c = '\x7d' → run = []) :
    scanReferences (some run) (c :: rest) = scanReferences none rest := by
  rw [scanReferences_cons, if_neg other]
  dsimp only
  rw [if_neg (Bool.eq_false_iff.1 noRef), if_neg fun ends => ends.2 (noEnd ends.1)]

/-- **One pass finds every occurrence**, and while a run is held also the placeholder that the
run has begun. -/
theorem scanReferences_eq (s : List Char) :
    scanReferences none s = occurrences s
      ∧ ∀ run, (∀ d ∈ run, isReferenceChar d = true) →
        scanReferences (some run) s
          = (placeholder? ('\x7b' :: (run ++ s))).toList ++ occurrences s := by
  induction s with
  | nil =>
      refine ⟨rfl, fun run isRef => ?_⟩
      rw [List.append_nil, placeholder?_end isRef]
      rfl
  | cons c s ih =>
      obtain ⟨idle, held⟩ := ih
      by_cases opens : c = '\x7b'
      · -- The run that was held can not go on over an opening brace: nothing is lost with it.
        subst opens
        have again : scanReferences (some []) s = occurrences ('\x7b' :: s) := by
          rw [held [] (List.forall_mem_nil _), List.nil_append, occurrences_cons]
        refine ⟨by rw [scanReferences_open, again], fun run isRef => ?_⟩
        rw [scanReferences_open, again, placeholder?_stop isRef (by decide),
          if_neg fun both => absurd both.2 (by decide)]
        rfl
      · have skips : occurrences (c :: s) = occurrences s := by
          rw [occurrences_cons, placeholder?_of_ne opens]
          rfl
        refine ⟨by rw [scanReferences_none opens, idle, skips], fun run isRef => ?_⟩
        rw [skips]
        by_cases isRefChar : isReferenceChar c = true
        · have grown : ∀ d ∈ run ++ [c], isReferenceChar d = true :=
            List.forall_mem_append.2 ⟨isRef, List.forall_mem_singleton.2 isRefChar⟩
          rw [scanReferences_char isRefChar, held _ grown, List.append_assoc,
            List.singleton_append]
        · have noRef := Bool.eq_false_iff.2 isRefChar
          rw [placeholder?_stop isRef noRef]
          by_cases ends : run ≠ [] ∧ c = '\x7d'
          · obtain ⟨filled, rfl⟩ := ends
            rw [scanReferences_close filled, idle, if_pos ⟨filled, rfl⟩]
            rfl
          · have noEnd : c = '\x7d' → run = [] := fun closes =>
              not_not.1 fun filled => ends ⟨filled, closes⟩
            rw [scanReferences_break opens noRef noEnd, idle, if_neg ends]
            rfl

/-- **The names in the placeholders of a body**, in their order. -/
theorem references_eq (body : String) :
    references body = (occurrences body.toList).map String.ofList :=
  congrArg _ (scanReferences_eq body.toList).1

/-- **What a body refers to.** -/
theorem mem_references_iff {body name : String} :
    name ∈ references body
      ↔ name ≠ "" ∧ (∀ c ∈ name.toList, isReferenceChar c = true)
        ∧ (braced name).toList <:+: body.toList := by
  have is : (braced name).toList = '\x7b' :: (name.toList ++ ['\x7d']) := by simp [braced]
  rw [references_eq, List.mem_map, is]
  constructor
  · rintro ⟨r, member, rfl⟩
    rw [String.toList_ofList]
    obtain ⟨filled, all, inside⟩ := mem_occurrences_iff.1 member
    exact ⟨by simpa using filled, all, inside⟩
  · rintro ⟨filled, all, inside⟩
    exact ⟨name.toList, mem_occurrences_iff.2 ⟨by simpa using filled, all, inside⟩,
      String.ofList_toList⟩

/-- A body that is one placeholder refers to nothing else. -/
theorem eq_of_mem_references {name w : String} (noOpen : '\x7b' ∉ w.toList)
    (noClose : '\x7d' ∉ w.toList) (member : name ∈ references (braced w)) : name = w := by
  have is : (braced w).toList = '\x7b' :: (w.toList ++ ['\x7d']) := by simp [braced]
  have none : occurrences (w.toList ++ ['\x7d']) = [] :=
    (occurrences_passed noOpen _).trans (by decide)
  rw [references_eq, is, occurrences_cons, none, List.append_nil] at member
  obtain ⟨r, found, rfl⟩ := List.mem_map.1 member
  obtain ⟨-, -, rest, same⟩ := placeholder?_eq_some_iff.1 (Option.mem_toList.1 found)
  obtain ⟨rfl, -⟩ :=
    (List.append_cons_inj_of_notMem noClose List.not_mem_nil).1 (List.cons.inj same).2
  exact String.ofList_toList

/-! ## Declaring references -/

/-- Camel case leaves nothing of a text exactly if it has no letter and no number. -/
theorem camelChars_eq_nil_iff : camelChars s = [] ↔ ∀ c ∈ s, Unicode.isAlphanumeric c = false := by
  induction s with
  | nil => simp [camelChars]
  | cons c s ih =>
      rw [camelChars, List.forall_mem_cons]
      split
      · rename_i letter
        simp [Unicode.toLower_ne_nil, letter]
      · rename_i noLetter
        simp [ih, noLetter]

/-- The letters and digits of references are those of ASCII. -/
theorem lt_of_isAlphanum (ascii : c.isAlphanum = true) : c.toNat < 128 := by
  rcases Bool.or_eq_true_iff.1 ascii with letter | digit
  · rcases Bool.or_eq_true_iff.1 letter with upper | lower
    · have last : c.val ≤ 'Z'.val := (of_decide_eq_true upper).2
      exact Nat.lt_of_le_of_lt (UInt32.le_iff_toNat_le.1 last) (by decide)
    · have last : c.val ≤ 'z'.val := of_decide_eq_true (Bool.and_eq_true_iff.1 lower).2
      exact Nat.lt_of_le_of_lt (UInt32.le_iff_toNat_le.1 last) (by decide)
  · exact Nat.lt_of_le_of_lt (Char.isDigit_iff_toNat.1 digit).2 (by decide)

/-- A reference character is an underscore or a letter or number. -/
theorem isAlphanumeric_of_isReferenceChar (isRef : isReferenceChar c = true) (other : c ≠ '_') :
    Unicode.isAlphanumeric c = true := by
  have ascii : c.isAlphanum = true := by
    simpa [isReferenceChar, other] using isRef
  have table : ∀ n < 128, (Char.ofNat n).isAlphanum = true →
      Unicode.isAlphanumeric (Char.ofNat n) = true := by
    decide
  have code := table c.toNat (lt_of_isAlphanum ascii)
  rw [Char.ofNat_toNat] at code
  exact code ascii

/-- **A reference is the name of a parameter if its camel case is not reserved and it is not
made of underscores.** -/
theorem validate_reference_iff {w name : String}
    (isRef : ∀ c ∈ w.toList, isReferenceChar c = true) :
    validate (braced w) = .ok name
      ↔ camelCase w = name ∧ isReserved name = false ∧ ∃ c ∈ w.toList, c ≠ '_' := by
  have plain : ∀ c ∈ w.toList, isMark c = false := fun c inside =>
    Bool.eq_false_iff.2 fun mark => by
      have table : ∀ n ∈ markCodes, isReferenceChar (Char.ofNat n) = false := by decide
      have noRef := table _ (mem_markCodes mark)
      rw [Char.ofNat_toNat, isRef c inside] at noRef
      cases noRef
  have filled : camelCase w ≠ "" ↔ ∃ c ∈ w.toList, c ≠ '_' := by
    rw [camelCase, Ne, String.ofList_eq_empty_iff, camelChars_eq_nil_iff]
    constructor
    · intro letters
      by_contra none
      refine letters fun c inside => ?_
      obtain rfl : c = '_' := by_contra fun other => none ⟨c, inside, other⟩
      decide
    · rintro ⟨c, inside, other⟩ none
      have letter := isAlphanumeric_of_isReferenceChar (isRef c inside) other
      rw [none c inside] at letter
      cases letter
  rw [validate_braced_iff plain]
  constructor
  · rintro ⟨rfl, notEmpty, free⟩
    exact ⟨rfl, free, filled.1 notEmpty⟩
  · rintro ⟨rfl, free, letter⟩
    exact ⟨rfl, filled.2 letter, free⟩

end PromptPipeline.Name
