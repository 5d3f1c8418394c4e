/-
# Proofs.Text.Trim -- trimming takes off nothing twice

A list of characters is `Trimmed` when neither of its ends satisfies the test.
`strip` gives such a list and leaves one as it is, so it is idempotent; a trimmed
text put behind another one leaves the end trimmed (`Trimmed.append`).
-/
import PromptPipeline.Text.Basic
import Mathlib.Data.List.Basic

namespace PromptPipeline.Text

set_option autoImplicit false

variable {p : Char → Bool}

/-! ## Deciding

The characters are a finite type, but what holds of those of a text is decided along it. -/

section

variable (q : Char → Prop) [DecidablePred q] (s : List Char) (o : Option Char)

instance (priority := high) decidableAll : Decidable (∀ c ∈ s, q c) := List.decidableBAll q s

instance (priority := high) decidableAny : Decidable (∃ c ∈ s, q c) := List.decidableBEx q s

instance (priority := high) decidableEnd : Decidable (∀ c, o = some c → q c) :=
  Option.decidableForallMem o

end

/-! ## Leads -/

theorem afterLead?_eq_some_iff {lead s rest : List Char} :
    afterLead? lead s = some rest ↔ s = lead ++ rest := by
  induction lead generalizing s with
  | nil => simp [afterLead?]
  | cons c lead ih =>
      cases s with
      | nil => simp [afterLead?]
      | cons d s =>
          by_cases same : c = d
          · subst same
            simp [afterLead?, ih]
          · simp [afterLead?, same, Ne.symm same]

/-! ## Trimmed lists -/

/-- Neither the first nor the last character satisfies `p`. -/
def Trimmed (p : Char → Bool) (s : List Char) : Prop :=
  (∀ c, s.head? = some c → p c = false) ∧ ∀ c, s.getLast? = some c → p c = false

theorem trimmed_nil : Trimmed p [] := ⟨by simp, by simp⟩

theorem dropLeading_head (s : List Char) (c : Char) (first : (dropLeading p s).head? = some c) :
    p c = false := by
  have kept := List.head?_dropWhile_not p s
  unfold dropLeading at first
  rw [first] at kept
  exact kept

theorem dropLeading_of_head {s : List Char} (first : ∀ c, s.head? = some c → p c = false) :
    dropLeading p s = s := by
  cases s with
  | nil => rfl
  | cons c rest => exact List.dropWhile_cons_of_neg (by simp [first c rfl])

theorem dropTrailing_of_last {s : List Char} (last : ∀ c, s.getLast? = some c → p c = false) :
    dropTrailing p s = s := by
  have first : ∀ c, s.reverse.head? = some c → p c = false := by
    intro c h
    exact last c (by rwa [List.head?_reverse] at h)
  have kept := dropLeading_of_head first
  unfold dropLeading at kept
  rw [dropTrailing, kept, List.reverse_reverse]

theorem dropTrailing_last (s : List Char) (c : Char) (last : (dropTrailing p s).getLast? = some c) :
    p c = false := by
  unfold dropTrailing at last
  rw [List.getLast?_reverse] at last
  exact dropLeading_head s.reverse c last

theorem dropTrailing_prefix (s : List Char) : dropTrailing p s <+: s := by
  have leads := List.reverse_prefix.2 (List.dropWhile_suffix p (l := s.reverse))
  rwa [List.reverse_reverse] at leads

/-- What is left of a list has its first character, if anything is left. -/
theorem dropTrailing_head {s : List Char} (c : Char) (first : (dropTrailing p s).head? = some c) :
    s.head? = some c := by
  obtain ⟨rest, whole⟩ := dropTrailing_prefix (p := p) s
  rw [← whole, List.head?_append, first]
  rfl

theorem trimmed_strip (s : List Char) : Trimmed p (strip p s) :=
  ⟨fun c first => dropLeading_head s c (dropTrailing_head c first),
    fun c last => dropTrailing_last _ c last⟩

theorem strip_eq_self {s : List Char} (trimmed : Trimmed p s) : strip p s = s := by
  rw [strip, dropLeading_of_head trimmed.1, dropTrailing_of_last trimmed.2]

theorem strip_sublist (s : List Char) : (strip p s).Sublist s := by
  have front := dropTrailing_prefix (p := p) (dropLeading p s)
  exact front.sublist.trans (List.dropWhile_suffix p).sublist

theorem mem_of_mem_strip {s : List Char} {c : Char} (member : c ∈ strip p s) : c ∈ s :=
  (strip_sublist s).subset member

theorem strip_strip (s : List Char) : strip p (strip p s) = strip p s :=
  strip_eq_self (trimmed_strip s)

/-- A trimmed text that is not empty ends what is put before it. -/
theorem Trimmed.append {s t : List Char} (left : Trimmed p s) (right : Trimmed p t)
    (middle : List Char) (full : s ≠ []) (more : t ≠ []) : Trimmed p (s ++ middle ++ t) := by
  constructor
  · intro c first
    rw [List.append_assoc, List.head?_append_of_ne_nil _ full] at first
    exact left.1 c first
  · intro c last
    rw [List.getLast?_append_of_ne_nil _ more] at last
    exact right.2 c last

/-! ## Trimmed texts -/

open Unicode (isBlank)

theorem toList_trim (s : String) : (trim s).toList = strip isBlank s.toList := by
  rw [trim, String.toList_ofList]

@[simp] theorem trim_trim (s : String) : trim (trim s) = trim s := by
  rw [trim, toList_trim, strip_strip, ← toList_trim, String.ofList_toList]

@[simp] theorem trim_empty : trim "" = "" := by
  rw [trim, String.toList_empty, strip_eq_self trimmed_nil, String.ofList_nil]

theorem trim_eq_self_iff {s : String} : trim s = s ↔ Trimmed isBlank s.toList := by
  constructor
  · intro same
    rw [← same, toList_trim]
    exact trimmed_strip s.toList
  · intro trimmed
    rw [trim, strip_eq_self trimmed, String.ofList_toList]

end PromptPipeline.Text
