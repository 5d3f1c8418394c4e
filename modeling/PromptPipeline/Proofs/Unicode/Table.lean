/-
# Proofs.Unicode.Table -- what the tables of characters say

A code point of a set lies on one of its stretches (`exists_stretch`).  The image of a character
under a case mapping comes from an expansion or a shift, or is the character itself
(`mem_caseImage`).  What is known of all letters is read off the tables one entry at a time: that
shifts take letters to letters (`Shift.lands`), and that no shift moves a code point of a stretch
(`Stretch.stays`).

So the image of a letter starts with a letter (`Regular.exists_head`), a capital is its own upper
case (`toUpper_of_isUppercase`), and lower case is its own lower case (`mem_toLower`).
-/
import PromptPipeline.Unicode.Class
import Mathlib.Data.Nat.Basic

namespace PromptPipeline.Unicode

set_option autoImplicit false

/-! ## Sets -/

theorem Stretch.bounds_of_contains {s : Stretch} {n : Nat} (inside : s.contains n = true) :
    s.first ≤ n ∧ n ≤ s.last := by
  simp only [Stretch.contains, Bool.and_eq_true, decide_eq_true_eq] at inside
  exact inside.1

theorem exists_stretch {set : CodeSet} {n : Nat} (inside : CodeSet.contains set n = true) :
    ∃ s ∈ set, s.contains n = true := by
  induction set with
  | nil => cases inside
  | cons s set ih =>
      rw [CodeSet.contains] at inside
      split at inside
      · cases inside
      · rename_i low
        split at inside
        · rename_i high
          refine ⟨s, List.mem_cons_self, ?_⟩
          rw [Stretch.contains, decide_eq_true (Nat.not_lt.1 low), decide_eq_true high, inside]
          rfl
        · obtain ⟨s', member, there⟩ := ih inside
          exact ⟨s', List.mem_cons_of_mem _ member, there⟩

/-- The code points from one to another are all in a set, on one stretch without gaps. -/
def CodeSet.covers : CodeSet → Nat → Nat → Bool
  | [], _, _ => false
  | s :: rest, low, high =>
      bif low.blt s.first then false
      else bif high.ble s.last then s.step.beq 1
      else s.last.blt low && covers rest low high

theorem CodeSet.contains_of_covers {set : CodeSet} {low high n : Nat}
    (covers : CodeSet.covers set low high = true) (above : low ≤ n) (below : n ≤ high) :
    CodeSet.contains set n = true := by
  induction set with
  | nil => cases covers
  | cons s set ih =>
      rw [CodeSet.covers] at covers
      rw [CodeSet.contains]
      cases before : low.blt s.first with
      | true => simp [before] at covers
      | false =>
          have first : s.first ≤ low := by
            rw [← Nat.not_lt, ← Nat.blt_eq, before]
            exact Bool.false_ne_true
          rw [if_neg (Nat.not_lt.2 (Nat.le_trans first above))]
          rw [before, cond_false] at covers
          cases until' : high.ble s.last with
          | true =>
              rw [until', cond_true] at covers
              rw [if_pos (Nat.le_trans below (Nat.le_of_ble_eq_true until')),
                Nat.eq_of_beq_eq_true covers, Nat.mod_one]
              rfl
          | false =>
              rw [until', cond_false, Bool.and_eq_true] at covers
              have behind : s.last < low := by simpa using covers.1
              rw [if_neg (Nat.not_le.2 (Nat.lt_of_lt_of_le behind above))]
              exact ih covers.2

/-! ## Shifts -/

theorem exists_shift {shifts : List Shift} {n image : Nat}
    (found : Shift.find? shifts n = some image) :
    ∃ s ∈ shifts, s.source.contains n = true ∧ image = s.image + (n - s.source.first) := by
  induction shifts with
  | nil => cases found
  | cons s shifts ih =>
      rw [Shift.find?] at found
      split at found
      · cases found
      · split at found
        · rename_i inside
          cases found
          exact ⟨s, List.mem_cons_self, inside, rfl⟩
        · obtain ⟨s', member, image⟩ := ih found
          exact ⟨s', List.mem_cons_of_mem _ member, image⟩

/-- The images of a shift are all in a set. -/
def Shift.lands (set : CodeSet) (s : Shift) : Bool :=
  CodeSet.covers set s.image (s.image + (s.source.last - s.source.first))
    || (List.range (s.source.last - s.source.first + 1)).all fun k =>
      k % s.source.step != 0 || CodeSet.contains set (s.image + k)

theorem Shift.contains_of_lands {set : CodeSet} {s : Shift} {n : Nat}
    (lands : s.lands set = true) (inside : s.source.contains n = true) :
    CodeSet.contains set (s.image + (n - s.source.first)) = true := by
  simp only [Stretch.contains, Bool.and_eq_true, decide_eq_true_eq] at inside
  obtain ⟨⟨low, high⟩, onStep⟩ := inside
  have le := Nat.sub_le_sub_right high s.source.first
  rcases Bool.or_eq_true_iff.1 lands with covers | each
  · exact CodeSet.contains_of_covers covers (Nat.le_add_right _ _) (Nat.add_le_add_left le _)
  · have here := List.all_eq_true.1 each _ (List.mem_range.2 (Nat.lt_succ_of_le le))
    simpa [bne, onStep] using here

/-- Where a shift takes its stretch. -/
def Shift.target (s : Shift) : Stretch :=
  ⟨s.image, s.image + (s.source.last - s.source.first), s.source.step⟩

theorem Shift.target_contains {s : Shift} {n : Nat} (inside : s.source.contains n = true) :
    s.target.contains (s.image + (n - s.source.first)) = true := by
  simp only [Stretch.contains, Bool.and_eq_true, decide_eq_true_eq] at inside
  obtain ⟨⟨low, high⟩, onStep⟩ := inside
  have le := Nat.sub_le_sub_right high s.source.first
  rw [Stretch.contains, Shift.target, Nat.add_sub_cancel_left, onStep, Bool.and_true,
    Bool.and_eq_true]
  exact ⟨decide_eq_true (Nat.le_add_right _ _), decide_eq_true (Nat.add_le_add_left le _)⟩

/-- The stretch has no two neighbours. -/
def Stretch.alternates (s : Stretch) : Bool := s.step.beq 2 || s.first.beq s.last

/-- No shift moves a code point of the stretch: the shifts before it end before it starts, those
on its way alternate with it, and the search ends at one behind it. -/
def Stretch.stays (s : Stretch) : List Shift → Bool
  | [] => true
  | t :: rest =>
      s.last.blt t.source.first
        || (t.source.last.blt s.first
            || s.alternates && t.source.alternates && ((s.first + t.source.first) % 2).beq 1)
          && s.stays rest

theorem Stretch.mod_two_of_alternates {s : Stretch} {n : Nat} (alternates : s.alternates = true)
    (inside : s.contains n = true) : n % 2 = s.first % 2 := by
  simp only [Stretch.contains, Bool.and_eq_true, decide_eq_true_eq, beq_iff_eq] at inside
  rcases Bool.or_eq_true_iff.1 alternates with two | single
  · have onStep := inside.2
    rw [Nat.eq_of_beq_eq_true two] at onStep
    omega
  · have same := Nat.eq_of_beq_eq_true single
    omega

theorem find?_of_stays {s : Stretch} {shifts : List Shift} {n : Nat}
    (stays : s.stays shifts = true) (inside : s.contains n = true) :
    Shift.find? shifts n = none := by
  have within := inside
  simp only [Stretch.contains, Bool.and_eq_true, decide_eq_true_eq] at within
  induction shifts with
  | nil => rfl
  | cons t shifts ih =>
      rw [Stretch.stays] at stays
      rw [Shift.find?]
      split
      · rfl
      · rename_i notBefore
        rcases Bool.or_eq_true_iff.1 stays with behind | stays
        · rw [Nat.blt_eq] at behind
          omega
        · rw [Bool.and_eq_true, Bool.or_eq_true, Bool.and_eq_true, Bool.and_eq_true] at stays
          obtain ⟨apart, rest⟩ := stays
          have outside : t.source.contains n = false := by
            refine Bool.eq_false_iff.2 fun there => ?_
            rcases apart with before | ⟨⟨alternates, alternates'⟩, odd⟩
            · rw [Nat.blt_eq] at before
              simp only [Stretch.contains, Bool.and_eq_true, decide_eq_true_eq] at there
              omega
            · have here := Stretch.mod_two_of_alternates alternates inside
              have there := Stretch.mod_two_of_alternates alternates' there
              have sum := Nat.eq_of_beq_eq_true odd
              omega
          rw [outside]
          exact ih rest

/-! ## Case mappings -/

/-- The image of a character under a case mapping. -/
def caseImage (expansions : List (Nat × List Nat)) (shifts : List Shift) (c : Char) : List Char :=
  match expansions.lookup c.toNat with
  | some image => image.map Char.ofNat
  | none => [Char.ofNat ((Shift.find? shifts c.toNat).getD c.toNat)]

variable {expansions : List (Nat × List Nat)} {shifts : List Shift} {c d : Char}
  {rest s : List Char}

/-- **Where the image of a character comes from.** -/
theorem mem_caseImage (image : d ∈ caseImage expansions shifts c) :
    (∃ x ∈ expansions, ∃ n ∈ x.2, d = Char.ofNat n)
      ∨ (d = c ∧ caseImage expansions shifts c = [c])
      ∨ ∃ s ∈ shifts, s.source.contains c.toNat = true
        ∧ d = Char.ofNat (s.image + (c.toNat - s.source.first)) := by
  unfold caseImage at image ⊢
  split at image
  · rename_i codes found
    obtain ⟨before, after, split, -⟩ := List.lookup_eq_some_iff.1 found
    obtain ⟨n, member, rfl⟩ := List.mem_map.1 image
    exact .inl ⟨(c.toNat, codes), split ▸ by simp, n, member, rfl⟩
  · obtain rfl := List.mem_singleton.1 image
    cases found : Shift.find? shifts c.toNat with
    | none => exact .inr (.inl (by rw [Option.getD_none, Char.ofNat_toNat]; exact ⟨rfl, rfl⟩))
    | some n =>
        obtain ⟨s, member, inside, rfl⟩ := exists_shift found
        exact .inr (.inr ⟨s, member, inside, rfl⟩)

/-- A character has an image if no expansion is empty. -/
theorem caseImage_ne_nil (filled : ∀ x ∈ expansions, x.2 ≠ []) :
    caseImage expansions shifts c ≠ [] := by
  unfold caseImage
  split
  · rename_i image found
    obtain ⟨before, after, split, -⟩ := List.lookup_eq_some_iff.1 found
    have more := filled (c.toNat, image) (split ▸ by simp)
    simpa using more
  · simp

theorem toLower_ne_nil (c : Char) : toLower c ≠ [] :=
  caseImage_ne_nil (show ∀ x ∈ lowerExpansions, x.2 ≠ [] by decide)

theorem toUpper_ne_nil (c : Char) : toUpper c ≠ [] :=
  caseImage_ne_nil (show ∀ x ∈ upperExpansions, x.2 ≠ [] by decide)

/-- A character that has no expansion and that no shift moves is its own image. -/
theorem caseImage_of_stays {t : Stretch} (unexpanded : ∀ x ∈ expansions, x.1 ≠ c.toNat)
    (stays : t.stays shifts = true) (inside : t.contains c.toNat = true) :
    caseImage expansions shifts c = [c] := by
  have none : expansions.lookup c.toNat = none :=
    List.lookup_eq_none_iff.2 fun x entry => bne_iff_ne.2 fun same => unexpanded x entry same.symm
  unfold caseImage
  rw [none]
  dsimp only
  rw [find?_of_stays stays inside, Option.getD_none, Char.ofNat_toNat]

/-! ## Letters -/

/-- Letters are characters. -/
theorem isValidChar_of_alphabetic {n : Nat} (letter : CodeSet.contains alphabetic n = true) :
    n.isValidChar := by
  have table : alphabetic.all (fun s => s.last.blt 0xD800
      || Nat.blt 0xDFFF s.first && s.last.blt 0x110000) = true := by
    decide +kernel
  obtain ⟨s, member, inside⟩ := exists_stretch letter
  simp only [Stretch.contains, Bool.and_eq_true, decide_eq_true_eq] at inside
  have range := List.all_eq_true.1 table s member
  simp only [Bool.or_eq_true, Bool.and_eq_true, Nat.blt_eq] at range
  unfold Nat.isValidChar
  omega

theorem toNat_ofNat_of_alphabetic {n : Nat} (letter : CodeSet.contains alphabetic n = true) :
    (Char.ofNat n).toNat = n := by
  rw [Char.ofNat, dif_pos (isValidChar_of_alphabetic letter)]
  rfl

theorem isAlphabetic_ofNat {n : Nat} (letter : CodeSet.contains alphabetic n = true) :
    isAlphabetic (Char.ofNat n) = true := by
  rw [isAlphabetic, toNat_ofNat_of_alphabetic letter]
  exact letter

/-- What the tables of a case mapping are like: an image starts with a letter, and an image of
several characters does not start with the character itself. -/
structure Regular (expansions : List (Nat × List Nat)) (shifts : List Shift) : Prop where
  expanded : expansions.all (fun x => x.2.head?.any fun n =>
    CodeSet.contains alphabetic n && Char.ofNat n != Char.ofNat x.1) = true
  shifted : shifts.all (Shift.lands alphabetic) = true

theorem regular_upper : Regular upperExpansions upperShifts where
  expanded := by decide +kernel
  shifted := by decide +kernel

theorem regular_lower : Regular lowerExpansions lowerShifts where
  expanded := by decide +kernel
  shifted := by decide +kernel

/-- The image of a letter or number starts with one, and with another one if it is longer. -/
theorem Regular.exists_head (regular : Regular expansions shifts)
    (letter : isAlphanumeric c = true) :
    ∃ d more, caseImage expansions shifts c = d :: more ∧ isAlphanumeric d = true
      ∧ (more ≠ [] → d ≠ c) := by
  have letters {n : Nat} (alphabetic : CodeSet.contains alphabetic n = true) :
      isAlphanumeric (Char.ofNat n) = true := by
    rw [isAlphanumeric, isAlphabetic_ofNat alphabetic, Bool.true_or]
  unfold caseImage
  split
  · rename_i image found
    obtain ⟨before, after, split, -⟩ := List.lookup_eq_some_iff.1 found
    have entry := List.all_eq_true.1 regular.expanded (c.toNat, image) (split ▸ by simp)
    cases image with
    | nil => cases entry
    | cons n ns =>
        simp only [List.head?_cons, Option.any_some, Bool.and_eq_true, bne_iff_ne, ne_eq,
          Char.ofNat_toNat] at entry
        exact ⟨_, _, rfl, letters entry.1, fun _ => entry.2⟩
  · refine ⟨_, [], rfl, ?_, fun longer => absurd rfl longer⟩
    cases found : Shift.find? shifts c.toNat with
    | none => rwa [Option.getD_none, Char.ofNat_toNat]
    | some n =>
        obtain ⟨s, member, inside, rfl⟩ := exists_shift found
        have lands := List.all_eq_true.1 regular.shifted s member
        exact letters (Shift.contains_of_lands lands inside)

/-- An image with something behind it starts with the character and the rest only if the
character is its own image. -/
theorem Regular.append_eq_cons_iff (regular : Regular expansions shifts)
    (letter : isAlphanumeric c = true) :
    caseImage expansions shifts c ++ s = c :: rest
      ↔ caseImage expansions shifts c = [c] ∧ s = rest := by
  obtain ⟨d, more, is, -, longer⟩ := regular.exists_head letter
  rw [is, List.cons_append, List.cons.injEq, List.cons.injEq]
  cases more with
  | nil => simp
  | cons => simp [longer (List.cons_ne_nil _ _)]

/-! ## Upper and lower case -/

/-- **The upper case of a capital is itself.** -/
theorem toUpper_of_isUppercase (upper : isUppercase c = true) : toUpper c = [c] := by
  have expanded : upperExpansions.all (fun x => !CodeSet.contains uppercase x.1) = true := by
    decide +kernel
  have stays : uppercase.all (·.stays upperShifts) = true := by
    decide +kernel
  obtain ⟨s, member, inside⟩ := exists_stretch upper
  refine caseImage_of_stays (fun x entry same => ?_) (List.all_eq_true.1 stays s member) inside
  have small := List.all_eq_true.1 expanded x entry
  rw [isUppercase, ← same] at upper
  rw [upper] at small
  cases small

/-- The image of a shift into lower case is its own lower case. -/
theorem toLower_of_target {s : Shift} (member : s ∈ lowerShifts)
    (there : s.target.contains c.toNat = true) : toLower c = [c] := by
  have targets : lowerShifts.all (fun s => s.target.stays lowerShifts) = true := by
    decide +kernel
  have kept : lowerExpansions.all (fun x => lowerShifts.all fun s =>
      !s.target.contains x.1) = true := by
    decide +kernel
  refine caseImage_of_stays (fun x entry same => ?_) (List.all_eq_true.1 targets s member) there
  have apart := List.all_eq_true.1 (List.all_eq_true.1 kept x entry) s member
  rw [same, there] at apart
  cases apart

/-- **Lower case is its own lower case**, and a hyphen only that of itself. -/
theorem mem_toLower (image : d ∈ toLower c) : toLower d = [d] ∧ (d = '-' → c = '-') := by
  have expanded : ∀ x ∈ lowerExpansions, ∀ n ∈ x.2,
      toLower (Char.ofNat n) = [Char.ofNat n] ∧ Char.ofNat n ≠ '-' := by
    decide +kernel
  rcases mem_caseImage image with ⟨x, entry, n, member, rfl⟩ | ⟨rfl, own⟩ | ⟨s, member, inside, rfl⟩
  · obtain ⟨own, other⟩ := expanded x entry n member
    exact ⟨own, fun hyphen => absurd hyphen other⟩
  · exact ⟨own, id⟩
  · have letter := Shift.contains_of_lands
      (List.all_eq_true.1 regular_lower.shifted s member) inside
    refine ⟨toLower_of_target member ?_, fun hyphen => ?_⟩
    · rw [toNat_ofNat_of_alphabetic letter]
      exact Shift.target_contains inside
    · have isLetter := isAlphabetic_ofNat letter
      rw [hyphen] at isLetter
      exact absurd isLetter (by decide +kernel)

end PromptPipeline.Unicode
