/-
# Proofs.Name.Recased -- a name in kebab case, put into camel case

The letters and numbers of a name in kebab case are their own lower case.  Put into camel case
such a name has its words, each with a capital first (`camelRest_spelled`), and no hyphens: one
that stood before a letter with a capital shows in the capital, and any other one is lost.  So
as long as each letter is the lower case of its capital (`IsReversible`), two names become the
same name exactly if they are the same without the hyphens that do not show
(`camelRest_eq_iff`).

There are letters with the capital of another one: the capital of the long s is S.
-/
import PromptPipeline.Proofs.Name.Stable

namespace PromptPipeline

set_option autoImplicit false

namespace Name

open Unicode

variable {s s' : List Char} {c : Char}

/-! ## Words -/

/-- The runs of letters and numbers. -/
def words (s : List Char) : List (List Char) := s.splitOnP fun c => !isAlphanumeric c

/-- A word with a capital first. -/
def capitalised : List Char → List Char
  | [] => []
  | c :: word => toUpper c ++ word

/-- The words, each with a capital first. -/
def spelled (s : List Char) : List Char := (words s).flatMap capitalised

theorem words_ne_nil (s : List Char) : words s ≠ [] := List.splitOnP_ne_nil _ s

theorem words_cons_letter (letter : isAlphanumeric c = true) :
    words (c :: s) = (words s).modifyHead (List.cons c) := by
  rw [words, List.splitOnP_cons_eq_if_modifyHead, letter]
  rfl

theorem words_cons_separator (separator : isAlphanumeric c = false) :
    words (c :: s) = [] :: words s := by
  rw [words, List.splitOnP_cons_eq_if_modifyHead, separator]
  rfl

/-- Only behind a separator is a letter that is its own lower case put into upper case. -/
theorem camelRest_cons_letter {boundary afterLower : Bool} (letter : isAlphanumeric c = true)
    (own : toLower c = [c]) :
    camelRest boundary afterLower (c :: s)
      = (if boundary then toUpper c else [c])
        ++ camelRest false (isLowercase c || isNumber c) s := by
  rw [camelRest, if_pos letter]
  cases boundary with
  | true => rfl
  | false =>
      rw [Bool.false_or, own]
      split
      · -- There are capitals without a lower case, and they have no other upper case either.
        rename_i upper
        rw [toUpper_of_isUppercase (Bool.and_eq_true_iff.1 upper).1]
        rfl
      · rfl

theorem camelRest_cons_separator {boundary afterLower : Bool}
    (separator : isAlphanumeric c = false) :
    camelRest boundary afterLower (c :: s) = camelRest true afterLower s := by
  rw [camelRest, if_neg (Bool.eq_false_iff.1 separator)]

/-- Only the first letter of a word is put into upper case. -/
theorem camelRest_eq_words {boundary afterLower : Bool} {first : List Char}
    {others : List (List Char)} (small : ∀ c ∈ s, toLower c = [c])
    (are : words s = first :: others) :
    camelRest boundary afterLower s
      = (if boundary then capitalised first else first) ++ others.flatMap capitalised := by
  induction s generalizing boundary afterLower first others with
  | nil =>
      obtain ⟨rfl, rfl⟩ : [] = first ∧ [] = others := List.cons.inj are
      cases boundary <;> rfl
  | cons c s ih =>
      obtain ⟨own, smallRest⟩ := List.forall_mem_cons.1 small
      obtain ⟨next, more, here⟩ := List.exists_cons_of_ne_nil (words_ne_nil s)
      cases letter : isAlphanumeric c with
      | true =>
          rw [words_cons_letter letter, here] at are
          obtain ⟨rfl, rfl⟩ : c :: next = first ∧ more = others := List.cons.inj are
          rw [camelRest_cons_letter letter own, ih smallRest here, if_neg Bool.false_ne_true,
            ← List.append_assoc]
          cases boundary <;> rfl
      | false =>
          rw [words_cons_separator letter, here] at are
          obtain ⟨rfl, rfl⟩ : [] = first ∧ next :: more = others := List.cons.inj are
          rw [camelRest_cons_separator letter, ih smallRest here]
          cases boundary <;> rfl

/-- **Behind a separator, a name in lower case becomes its words with capitals.** -/
theorem camelRest_spelled {afterLower : Bool} (small : ∀ c ∈ s, toLower c = [c]) :
    camelRest true afterLower s = spelled s := by
  obtain ⟨first, others, are⟩ := List.exists_cons_of_ne_nil (words_ne_nil s)
  rw [camelRest_eq_words small are, if_pos rfl, spelled, are, List.flatMap_cons]

/-! ## Hyphens -/

/-- A character that is not its own upper case. -/
def isCased (c : Char) : Bool := toUpper c != [c]

theorem isCased_eq_false_iff : isCased c = false ↔ toUpper c = [c] := bne_eq_false_iff_eq

/-- A name without the hyphens that are not in front of a cased letter. -/
def closed : List Char → List Char
  | [] => []
  | c :: s => if c = '-' ∧ s.head?.any isCased = false then closed s else c :: closed s

/-- A name of words with hyphens between them, each letter the lower case of its capital. -/
def IsReversible (s : List Char) : Prop :=
  ∀ c ∈ s, c = '-' ∨ isAlphanumeric c = true ∧ (toUpper c).flatMap toLower = [c]

instance (s : List Char) : Decidable (IsReversible s) := List.decidableBAll _ s

/-- A capital is read as a hyphen and the letter. -/
def opened (c : Char) : List Char := if toLower c = [c] then [c] else '-' :: toLower c

/-- The capital of a letter tells the letter, and that it is behind a hyphen. -/
theorem opened_toUpper (reversible : (toUpper c).flatMap toLower = [c]) :
    (toUpper c).flatMap opened = if isCased c then ['-', c] else [c] := by
  obtain ⟨capital, more, is⟩ := List.exists_cons_of_ne_nil (toUpper_ne_nil c)
  rw [is, List.flatMap_cons] at reversible
  obtain ⟨d, others, image⟩ := List.exists_cons_of_ne_nil (toLower_ne_nil capital)
  rw [image, List.cons_append] at reversible
  obtain ⟨rfl, nothing⟩ := List.cons.inj reversible
  obtain ⟨rfl, rest⟩ := List.append_eq_nil_iff.1 nothing
  have alone : more = [] := by
    cases more with
    | nil => rfl
    | cons e more =>
        rw [List.flatMap_cons] at rest
        exact absurd (List.append_eq_nil_iff.1 rest).1 (toLower_ne_nil e)
  rw [is, alone, List.flatMap_singleton, opened, image]
  by_cases same : [d] = [capital]
  · have small : isCased d = false := isCased_eq_false_iff.2 (by rw [is, alone, same])
    rw [if_pos same, small, if_neg Bool.false_ne_true, same]
  · have cased : isCased d = true := bne_iff_ne.2 (by rw [is, alone]; exact Ne.symm same)
    rw [if_neg same, if_pos cased]

theorem closed_hyphen : closed ('-' :: s)
    = if s.head?.any isCased then '-' :: closed s else closed s := by
  rw [closed]
  cases s.head?.any isCased <;> rfl

theorem closed_letter (letter : c ≠ '-') : closed (c :: s) = c :: closed s := by
  rw [closed, if_neg fun hyphen => letter hyphen.1]

theorem closed_hyphen_letter (letter : c ≠ '-') :
    closed ('-' :: c :: s) = (if isCased c then ['-', c] else [c]) ++ closed s := by
  rw [closed_hyphen, closed_letter letter, List.head?_cons, Option.any_some]
  cases isCased c <;> rfl

theorem closed_hyphen_hyphen : closed ('-' :: '-' :: s) = closed ('-' :: s) := by
  have caseless : isCased '-' = false := by decide +kernel
  rw [closed_hyphen, List.head?_cons, Option.any_some, caseless, if_neg Bool.false_ne_true]

theorem not_isAlphanumeric_hyphen : isAlphanumeric '-' = false := by decide +kernel

/-- **What shows of a name in camel case.** -/
theorem opened_camelRest {boundary afterLower : Bool} (small : ∀ c ∈ s, toLower c = [c])
    (reversible : IsReversible s) :
    (camelRest boundary afterLower s).flatMap opened
      = closed (if boundary then '-' :: s else s) := by
  induction s generalizing boundary afterLower with
  | nil => cases boundary <;> rfl
  | cons c s ih =>
      obtain ⟨own, smallRest⟩ := List.forall_mem_cons.1 small
      obtain ⟨here, reversibleRest⟩ := List.forall_mem_cons.1 reversible
      rcases here with hyphen | ⟨letter, back⟩
      · have separator : isAlphanumeric c = false := hyphen ▸ not_isAlphanumeric_hyphen
        rw [camelRest_cons_separator separator, ih smallRest reversibleRest, if_pos rfl, hyphen]
        cases boundary with
        | false => rfl
        | true =>
            rw [if_pos rfl, closed_hyphen_hyphen]
      · have other : c ≠ '-' := by
          rintro rfl
          exact absurd letter (Bool.eq_false_iff.1 not_isAlphanumeric_hyphen)
        rw [camelRest_cons_letter letter own, List.flatMap_append, ih smallRest reversibleRest,
          if_neg Bool.false_ne_true]
        cases boundary with
        | true => rw [if_pos rfl, if_pos rfl, opened_toUpper back, closed_hyphen_letter other]
        | false =>
            rw [if_neg Bool.false_ne_true, if_neg Bool.false_ne_true, List.flatMap_singleton,
              opened, if_pos own, closed_letter other]
            rfl

/-- In front of anything but a cased letter, it makes no difference whether a word begins. -/
theorem camelRest_of_not_cased {boundary afterLower : Bool} (small : ∀ c ∈ s, toLower c = [c])
    (caseless : s.head?.any isCased = false) :
    camelRest boundary afterLower s = camelRest true afterLower s := by
  cases s with
  | nil => rfl
  | cons c s =>
      have own := (List.forall_mem_cons.1 small).1
      cases letter : isAlphanumeric c with
      | true =>
          have upper : toUpper c = [c] := isCased_eq_false_iff.1 caseless
          rw [camelRest_cons_letter letter own, camelRest_cons_letter letter own, upper, ite_self,
            ite_self]
      | false => rw [camelRest_cons_separator letter, camelRest_cons_separator letter]

/-- **Hyphens that do not show make no difference.** -/
theorem camelRest_closed {boundary afterLower : Bool} (small : ∀ c ∈ s, toLower c = [c]) :
    camelRest boundary afterLower (closed s) = camelRest boundary afterLower s := by
  induction s generalizing boundary afterLower with
  | nil => rfl
  | cons c s ih =>
      obtain ⟨own, smallRest⟩ := List.forall_mem_cons.1 small
      rw [closed]
      split
      · rename_i hidden
        have separator : isAlphanumeric c = false := hidden.1 ▸ not_isAlphanumeric_hyphen
        rw [camelRest_cons_separator separator, ih smallRest]
        exact camelRest_of_not_cased smallRest hidden.2
      · cases letter : isAlphanumeric c with
        | true =>
            rw [camelRest_cons_letter letter own, camelRest_cons_letter letter own,
              ih smallRest]
        | false =>
            rw [camelRest_cons_separator letter, camelRest_cons_separator letter, ih smallRest]

/-- **Which names become the same**: those that are the same without the hyphens that do not
show. -/
theorem camelRest_eq_iff {afterLower : Bool} (small : ∀ c ∈ s, toLower c = [c])
    (small' : ∀ c ∈ s', toLower c = [c]) (reversible : IsReversible s)
    (reversible' : IsReversible s') :
    camelRest true afterLower s = camelRest true afterLower s'
      ↔ closed ('-' :: s) = closed ('-' :: s') := by
  constructor
  · intro same
    have opens := congrArg (List.flatMap opened) same
    rw [opened_camelRest small reversible, opened_camelRest small' reversible'] at opens
    exact opens
  · intro same
    have keeps {s : List Char} (small : ∀ c ∈ s, toLower c = [c]) :
        camelRest true afterLower (closed ('-' :: s)) = camelRest true afterLower s := by
      have hyphen : toLower '-' = ['-'] := by decide +kernel
      rw [camelRest_closed (List.forall_mem_cons.2 ⟨hyphen, small⟩),
        camelRest_cons_separator not_isAlphanumeric_hyphen]
    rw [← keeps small, same, keeps small']

/-! ## Kebab case -/

/-- A name without a hyphen in front of anything but a cased letter. -/
def IsSeparated (s : List Char) : Prop := s.IsChain fun b c => b = '-' → isCased c = true

instance (s : List Char) : Decidable (IsSeparated s) := inferInstanceAs (Decidable (s.IsChain _))

/-- What a name in kebab case is like. -/
structure IsKebab (s : List Char) : Prop where
  small : ∀ c ∈ s, toLower c = [c]
  first : ∀ c ∈ s.head?, c ≠ '-'
  last : ∀ c ∈ s.getLast?, c ≠ '-'

/-- A name in kebab case has hyphens and the lower case of letters and numbers. -/
theorem mem_kebabRest {pending : Bool} {d : Char} (member : d ∈ kebabRest pending s) :
    d = '-' ∨ ∃ c ∈ s, isAlphanumeric c = true ∧ d ∈ toLower c := by
  induction s generalizing pending with
  | nil => cases member
  | cons c s ih =>
      have later {pending : Bool} (member : d ∈ kebabRest pending s) :
          d = '-' ∨ ∃ b ∈ c :: s, isAlphanumeric b = true ∧ d ∈ toLower b := by
        rcases ih member with hyphen | ⟨b, inside, letter, image⟩
        · exact .inl hyphen
        · exact .inr ⟨b, List.mem_cons_of_mem _ inside, letter, image⟩
      rw [kebabRest] at member
      split at member
      · rename_i letter
        rcases List.mem_append.1 member with here | member
        · rcases List.mem_append.1 here with hyphen | image
          · cases pending with
            | true => exact .inl (List.mem_singleton.1 hyphen)
            | false => cases hyphen
          · exact .inr ⟨c, List.mem_cons_self, letter, image⟩
        · exact later member
      · exact later member

theorem mem_kebabChars {d : Char} (member : d ∈ kebabChars s) :
    d = '-' ∨ ∃ c ∈ s, isAlphanumeric c = true ∧ d ∈ toLower c := by
  induction s with
  | nil => cases member
  | cons c s ih =>
      rw [kebabChars] at member
      split at member
      · rename_i letter
        rcases List.mem_append.1 member with image | member
        · exact .inr ⟨c, List.mem_cons_self, letter, image⟩
        · rcases mem_kebabRest member with hyphen | ⟨b, inside, letter, image⟩
          · exact .inl hyphen
          · exact .inr ⟨b, List.mem_cons_of_mem _ inside, letter, image⟩
      · rcases ih member with hyphen | ⟨b, inside, letter, image⟩
        · exact .inl hyphen
        · exact .inr ⟨b, List.mem_cons_of_mem _ inside, letter, image⟩

/-- The lower case of a letter ends a name. -/
theorem ne_hyphen_of_mem_toLower {d : Char} (letter : isAlphanumeric c = true)
    (image : d ∈ toLower c) : d ≠ '-' := by
  intro hyphen
  rw [(mem_toLower image).2 hyphen, not_isAlphanumeric_hyphen] at letter
  cases letter

theorem last_append_toLower (before : List Char) (letter : isAlphanumeric c = true)
    (last : ∀ d ∈ s.getLast?, d ≠ '-') :
    ∀ d ∈ (before ++ toLower c ++ s).getLast?, d ≠ '-' := by
  intro d ends
  rw [List.getLast?_append, List.getLast?_append_of_ne_nil _ (toLower_ne_nil c)] at ends
  rcases Option.or_eq_some_iff.1 ends with later | ⟨-, here⟩
  · exact last d later
  · exact ne_hyphen_of_mem_toLower letter (List.mem_of_getLast? here)

theorem last_kebabRest {pending : Bool} : ∀ d ∈ (kebabRest pending s).getLast?, d ≠ '-' := by
  induction s generalizing pending with
  | nil => exact fun d ends => nomatch ends
  | cons c s ih =>
      rw [kebabRest]
      split
      · rename_i letter
        exact last_append_toLower _ letter ih
      · exact ih

/-- **A title in kebab case.** -/
theorem isKebab_kebab (title : String) : IsKebab (kebab title).toList := by
  have chars : (kebab title).toList = kebabChars title.toList := String.toList_ofList
  rw [chars]
  refine ⟨fun d member => ?_, ?_, ?_⟩
  · rcases mem_kebabChars member with rfl | ⟨c, -, -, image⟩
    · decide +kernel
    · exact (mem_toLower image).1
  · induction title.toList with
    | nil => exact fun d first => nomatch first
    | cons c s ih =>
        rw [kebabChars]
        split
        · rename_i letter
          intro d first
          rw [List.head?_append_of_ne_nil _ (toLower_ne_nil c)] at first
          exact ne_hyphen_of_mem_toLower letter (List.mem_of_head? first)
        · exact ih
  · induction title.toList with
    | nil => exact fun d ends => nomatch ends
    | cons c s ih =>
        rw [kebabChars]
        split
        · rename_i letter
          exact last_append_toLower [] letter last_kebabRest
        · exact ih

/-- The lower-case letters and the digits of ASCII are told by their capitals. -/
theorem isReversible_kebab_of_ascii {title : String} (ascii : ∀ c ∈ title.toList, c.toNat < 128) :
    IsReversible (kebab title).toList := by
  have table : ∀ n < 128, let c := Char.ofNat n
      toLower c = [c] → (toUpper c).flatMap toLower = [c] := by
    decide +kernel
  have chars : (kebab title).toList = kebabChars title.toList := String.toList_ofList
  intro d member
  rcases mem_kebabChars (chars ▸ member) with hyphen | ⟨c, inside, letter, image⟩
  · exact .inl hyphen
  · obtain ⟨low, letter⟩ := ((plain_cases ⟨ascii c inside, letter⟩).1 d image).1
    have row := table d.toNat low
    rw [Char.ofNat_toNat] at row
    exact .inr ⟨letter, row (mem_toLower image).1⟩

/-- All hyphens of a separated name show. -/
theorem closed_of_separated (separated : IsSeparated s) (last : ∀ c ∈ s.getLast?, c ≠ '-') :
    closed s = s := by
  induction s with
  | nil => rfl
  | cons c s ih =>
      cases s with
      | nil => rw [closed_letter (last c rfl), closed]
      | cons d s =>
          rw [IsSeparated, List.isChain_cons_cons] at separated
          rw [List.getLast?_cons_cons] at last
          have rest := ih separated.2 last
          by_cases hyphen : c = '-'
          · subst hyphen
            have shows : (d :: s).head?.any isCased = true := separated.1 rfl
            rw [closed_hyphen, if_pos shows, rest]
          · rw [closed_letter hyphen, rest]

/-- **Separated names stay apart.** -/
theorem closed_injective (kebab : IsKebab s) (kebab' : IsKebab s') (separated : IsSeparated s)
    (separated' : IsSeparated s') (same : closed ('-' :: s) = closed ('-' :: s')) : s = s' := by
  have shown {s : List Char} (kebab : IsKebab s) (separated : IsSeparated s) :
      closed ('-' :: s) = s ∨ closed ('-' :: s) = '-' :: s := by
    rw [closed_hyphen, closed_of_separated separated kebab.last]
    split
    · exact .inr rfl
    · exact .inl rfl
  rcases shown kebab separated with is | is <;> rcases shown kebab' separated' with is' | is'
  · rw [← is, same, is']
  · have begins : s = '-' :: s' := by rw [← is, same, is']
    exact absurd rfl (kebab.first '-' (begins ▸ rfl))
  · have begins : s' = '-' :: s := by rw [← is', ← same, is]
    exact absurd rfl (kebab'.first '-' (begins ▸ rfl))
  · exact (List.cons.inj (is.symm.trans (same.trans is'))).2

end Name

end PromptPipeline
