/-
# Proofs.Name.Stable -- which names stay as they are

A name in camel case that is put into camel case again stays as it is if it looks like one:
letters and numbers only, the first one not a capital, and a capital only after a lower-case
letter or a number (`IsCamel`).  Not all names look like that.  A word of one letter between
two others leaves two capitals next to each other, and the second one is put down when the
name is read again (`camelCase_unstable`).
-/
import Mathlib.Data.List.Chain
import PromptPipeline.Proofs.Name.References

namespace PromptPipeline

set_option autoImplicit false

namespace Name

open Unicode

/-! ## Names in camel case -/

/-- A character that stays as it is after another one: it is its own lower case, or a capital
after a lower-case letter or a number. -/
def Follows (before c : Char) : Prop :=
  toLower c = [c] ∨ isUppercase c = true ∧ (isLowercase before || isNumber before) = true

instance (before c : Char) : Decidable (Follows before c) :=
  inferInstanceAs (Decidable (_ ∨ _))

/-- A list of characters looks like camel case. -/
structure IsCamel (s : List Char) : Prop where
  letters : ∀ c ∈ s, isAlphanumeric c = true
  first : ∀ c ∈ s.head?, toLower c = [c]
  follows : s.IsChain Follows

/-- Behind a separator there is a letter or a number, if anything. -/
theorem isAlphanumeric_head_camelRest {afterLower : Bool} {s : List Char} :
    ∀ c ∈ (camelRest true afterLower s).head?, isAlphanumeric c = true := by
  induction s generalizing afterLower with
  | nil => exact fun c first => nomatch first
  | cons c s ih =>
      rw [camelRest]
      split
      · rename_i letter
        obtain ⟨d, more, is, head, -⟩ := regular_upper.exists_head letter
        have is : toUpper c = d :: more := is
        simpa [is] using head
      · exact ih

theorem isAlphanumeric_head_camelChars {s : List Char} :
    ∀ c ∈ (camelChars s).head?, isAlphanumeric c = true := by
  induction s with
  | nil => exact fun c first => nomatch first
  | cons c s ih =>
      rw [camelChars]
      split
      · rename_i letter
        obtain ⟨d, more, is, head, -⟩ := regular_lower.exists_head letter
        have is : toLower c = d :: more := is
        simpa [is] using head
      · exact ih

/-- What follows a character stays as it is if each character does after the one before it. -/
theorem camelRest_eq_self_iff {before : Char} {s : List Char} :
    camelRest false (isLowercase before || isNumber before) s = s
      ↔ (∀ c ∈ s, isAlphanumeric c = true) ∧ (before :: s).IsChain Follows := by
  induction s generalizing before with
  | nil => simp [camelRest]
  | cons c s ih =>
      rw [camelRest, List.forall_mem_cons, List.isChain_cons_cons]
      split
      · rename_i letter
        rw [Bool.false_or]
        split
        · -- A capital after a lower-case letter or a number is kept.
          rename_i kept
          rw [Bool.and_eq_true] at kept
          have follows : Follows before c := .inr kept
          rw [toUpper_of_isUppercase kept.1, List.singleton_append, List.cons.injEq,
            and_iff_right rfl, ih, and_iff_right letter, and_iff_right follows]
        · rename_i down
          rw [Bool.and_eq_true] at down
          have follows : Follows before c ↔ toLower c = [c] := or_iff_left down
          refine (regular_lower.append_eq_cons_iff letter).trans ?_
          rw [ih, and_iff_right letter, follows, and_left_comm]
          rfl
      · rename_i separator
        constructor
        · intro same
          have first := isAlphanumeric_head_camelRest (s := s) c (by rw [same]; rfl)
          exact absurd first separator
        · rintro ⟨⟨letter, -⟩, -⟩
          exact absurd letter separator

/-- **Which lists of characters are in camel case and stay so.** -/
theorem camelChars_eq_self_iff {s : List Char} : camelChars s = s ↔ IsCamel s := by
  cases s with
  | nil =>
      refine ⟨fun _ => ⟨nofun, nofun, .nil⟩, fun _ => rfl⟩
  | cons c s =>
      have camel : IsCamel (c :: s) ↔ isAlphanumeric c = true ∧ toLower c = [c]
          ∧ (∀ d ∈ s, isAlphanumeric d = true) ∧ (c :: s).IsChain Follows := by
        constructor
        · rintro ⟨letters, first, follows⟩
          obtain ⟨letter, letters⟩ := List.forall_mem_cons.1 letters
          exact ⟨letter, first c rfl, letters, follows⟩
        · rintro ⟨letter, first, letters, follows⟩
          refine ⟨List.forall_mem_cons.2 ⟨letter, letters⟩, ?_, follows⟩
          rintro _ ⟨⟩
          exact first
      rw [camelChars, camel]
      split
      · rename_i letter
        rw [and_iff_right letter, ← camelRest_eq_self_iff]
        exact regular_lower.append_eq_cons_iff letter
      · rename_i separator
        constructor
        · intro same
          have first := isAlphanumeric_head_camelChars (s := s) c (by rw [same]; rfl)
          exact absurd first separator
        · rintro ⟨letter, -⟩
          exact absurd letter separator

instance (s : List Char) : Decidable (IsCamel s) :=
  decidable_of_iff ((∀ c ∈ s, isAlphanumeric c = true) ∧ (∀ c ∈ s.head?, toLower c = [c])
    ∧ s.IsChain Follows)
    ⟨fun ⟨letters, first, follows⟩ => ⟨letters, first, follows⟩,
      fun ⟨letters, first, follows⟩ => ⟨letters, first, follows⟩⟩

/-! ## ASCII -/

/-- A letter or digit of ASCII. -/
def IsPlain (c : Char) : Prop := c.toNat < 128 ∧ isAlphanumeric c = true

instance (c : Char) : Decidable (IsPlain c) := inferInstanceAs (Decidable (_ ∧ _))

/-- What the letters and digits of ASCII are like. -/
theorem plain_cases {c : Char} (plain : IsPlain c) :
    (∀ d ∈ toLower c, IsPlain d ∧ isUppercase d = false) ∧ (∀ d ∈ toUpper c, IsPlain d)
      ∧ (toLower c = [c] ↔ isUppercase c = false)
      ∧ (isLowercase c || isNumber c) = !isUppercase c := by
  have table : ∀ n < 128, let c := Char.ofNat n
      isAlphanumeric c = true →
        (∀ d ∈ toLower c, IsPlain d ∧ isUppercase d = false) ∧ (∀ d ∈ toUpper c, IsPlain d)
          ∧ (toLower c = [c] ↔ isUppercase c = false)
          ∧ (isLowercase c || isNumber c) = !isUppercase c := by
    decide +kernel
  have row := table c.toNat plain.1
  rw [Char.ofNat_toNat] at row
  exact row plain.2

/-- Not both characters are capitals. -/
def NotBothCapitals (before c : Char) : Prop :=
  ¬(isUppercase before = true ∧ isUppercase c = true)

instance (before c : Char) : Decidable (NotBothCapitals before c) :=
  inferInstanceAs (Decidable (¬_))

theorem follows_iff_of_plain {before c : Char} (plain : IsPlain before) (plain' : IsPlain c) :
    Follows before c ↔ NotBothCapitals before c := by
  obtain ⟨-, -, -, kinds⟩ := plain_cases plain
  obtain ⟨-, -, own, -⟩ := plain_cases plain'
  rw [Follows, NotBothCapitals, own, kinds]
  cases isUppercase before <;> cases isUppercase c <;> simp

theorem plain_of_camelRest {boundary afterLower : Bool} {s : List Char}
    (ascii : ∀ c ∈ s, c.toNat < 128) : ∀ c ∈ camelRest boundary afterLower s, IsPlain c := by
  induction s generalizing boundary afterLower with
  | nil => exact fun c h => nomatch h
  | cons c s ih =>
      obtain ⟨low, ascii⟩ := List.forall_mem_cons.1 ascii
      rw [camelRest]
      split
      · rename_i letter
        obtain ⟨lower, upper, -, -⟩ := plain_cases ⟨low, letter⟩
        refine List.forall_mem_append.2 ⟨?_, ih ascii⟩
        split
        · exact upper
        · exact fun d image => (lower d image).1
      · exact ih ascii

theorem plain_of_camelChars {s : List Char} (ascii : ∀ c ∈ s, c.toNat < 128) :
    (∀ c ∈ camelChars s, IsPlain c) ∧ ∀ c ∈ (camelChars s).head?, isUppercase c = false := by
  induction s with
  | nil => exact ⟨nofun, nofun⟩
  | cons c s ih =>
      obtain ⟨low, ascii⟩ := List.forall_mem_cons.1 ascii
      rw [camelChars]
      split
      · rename_i letter
        obtain ⟨lower, -⟩ := plain_cases ⟨low, letter⟩
        constructor
        · exact List.forall_mem_append.2
            ⟨fun d image => (lower d image).1, plain_of_camelRest ascii⟩
        · intro d first
          rw [List.head?_append_of_ne_nil _ (toLower_ne_nil c)] at first
          exact (lower d (List.mem_of_head? first)).2
      · exact ih ascii

/-- **Out of ASCII, camel case looks like it if no two capitals stand next to each other.** -/
theorem isCamel_iff_of_ascii {s : List Char} (ascii : ∀ c ∈ s, c.toNat < 128) :
    IsCamel (camelChars s) ↔ (camelChars s).IsChain NotBothCapitals := by
  obtain ⟨plain, first⟩ := plain_of_camelChars ascii
  have chains : (camelChars s).IsChain Follows ↔ (camelChars s).IsChain NotBothCapitals :=
    List.IsChain.iff_of_mem_imp fun b c member member' =>
      follows_iff_of_plain (plain b member) (plain c member')
  rw [← chains]
  constructor
  · exact IsCamel.follows
  · refine fun follows => ⟨fun c member => (plain c member).2, fun c head => ?_, follows⟩
    exact (plain_cases (plain c (List.mem_of_head? head))).2.2.1.2 (first c head)

/-! ## Stability -/

theorem camelCase_eq_self_iff {name : String} : camelCase name = name ↔ IsCamel name.toList := by
  rw [← camelChars_eq_self_iff, camelCase]
  constructor
  · intro same
    have chars := congrArg String.toList same
    rwa [String.toList_ofList] at chars
  · intro same
    rw [same, String.ofList_toList]

/-- **Which names are stable.**  A name in camel case stays as it is, and is read as itself between
braces, exactly if it looks like camel case.  Out of ASCII it does unless it has two capitals next
to each other. -/
theorem camelCase_stable_iff (text : String) :
    (camelCase (camelCase text) = camelCase text ↔ IsCamel (camelCase text).toList)
      ∧ (∀ name, validate text = .ok name →
        (validate (braced name) = .ok name ↔ IsCamel name.toList))
      ∧ ((∀ c ∈ text.toList, c.toNat < 128) →
        (camelCase (camelCase text) = camelCase text
          ↔ (camelCase text).toList.IsChain NotBothCapitals)) := by
  refine ⟨camelCase_eq_self_iff, fun name valid => ?_, fun ascii => ?_⟩
  · rw [validate_braced_iff (not_mark_of_validate valid), ← camelCase_eq_self_iff]
    obtain ⟨-, -, filled, free⟩ := validate_ok_iff.1 valid
    exact and_iff_left ⟨filled, free⟩
  · have chars : (camelCase text).toList = camelChars text.toList := String.toList_ofList
    rw [camelCase_eq_self_iff, chars]
    exact isCamel_iff_of_ascii ascii

/-- A name with capitals inside, which are kept. -/
theorem camelCase_stable_words :
    let text := "<my first-name 2>"
    validate text = .ok "myFirstName2" ∧ IsCamel "myFirstName2".toList
      ∧ validate (braced "myFirstName2") = .ok "myFirstName2"
      ∧ (∀ c ∈ text.toList, c.toNat < 128)
      ∧ camelCase (camelCase text) = camelCase text := by
  intro text
  have valid : validate text = .ok "myFirstName2" := by decide +kernel
  have camel : IsCamel "myFirstName2".toList := by decide +kernel
  have ascii : ∀ c ∈ text.toList, c.toNat < 128 := by decide
  have apart : (camelCase text).toList.IsChain NotBothCapitals := by decide +kernel
  obtain ⟨-, braces, plain⟩ := camelCase_stable_iff text
  exact ⟨valid, camel, (braces _ valid).2 camel, ascii, (plain ascii).2 apart⟩

/-- **A word of one letter between two others**: what is read between braces is another name. -/
theorem camelCase_unstable :
    camelCase "a-b-c" = "aBC" ∧ camelCase (camelCase "a-b-c") = "aBc"
      ∧ validate "a-b-c" = .ok "aBC" ∧ validate (braced "aBC") = .ok "aBc" := by
  decide +kernel

end Name

end PromptPipeline
