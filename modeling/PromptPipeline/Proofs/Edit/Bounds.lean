/-
# Proofs.Edit.Bounds -- the bounds of an amount

An expectation sets the sides that its sign bounds, unless they are set to something
else or would cross (`Directive.Expect.restrict_ok_iff`), so bounds that come from
expectations are sound: they bound their amount and do not cross.
-/
import PromptPipeline.Proofs.Edit.Run
import PromptPipeline.Directive.Expect
import Mathlib.Logic.Basic
import Mathlib.Tactic.Cases

namespace PromptPipeline

set_option autoImplicit false

/-! ## Sound bounds -/

/-- Bounds that bound an amount and do not cross. -/
structure Bounds.Sound (b : Bounds) : Prop where
  bounds : b.min ≠ none ∨ b.max ≠ none
  ordered : ∀ low high, b.min = some low → b.max = some high → low ≤ high

/-! ## Expectations -/

namespace Directive.Expect

theorem setBound_ok_iff {isUpper : Bool} {unit : AmountUnit} {amount bound : UInt32}
    {existing : Option UInt32} :
    setBound isUpper unit amount existing = .ok bound
      ↔ (∀ old, existing = some old → old = amount) ∧ amount = bound := by
  cases existing with
  | none => simp [setBound]
  | some old =>
      simp only [setBound, Option.some.injEq, forall_eq']
      by_cases same : old = amount
      · simp [same]
      · simp [same]

/-- What an expectation asks of the bounds before it and what they are after it. -/
structure Restricts (sign : BoundSign) (amount : UInt32) (b b' : Bounds) : Prop where
  below : sign.boundsBelow = true → ∀ old, b.min = some old → old = amount
  above : sign.boundsAbove = true → ∀ old, b.max = some old → old = amount
  min : b'.min = if sign.boundsBelow then some amount else b.min
  max : b'.max = if sign.boundsAbove then some amount else b.max
  ordered : ∀ low high, b'.min = some low → b'.max = some high → low ≤ high

/-- One side of the bounds is set if the sign bounds it, and the rest goes on with it. -/
theorem side_ok_iff {sets isUpper : Bool} {unit : AmountUnit} {amount : UInt32}
    {existing : Option UInt32} {rest : Option UInt32 → Except Conflict Bounds} {b : Bounds} :
    (if sets = true then (some <$> setBound isUpper unit amount existing) >>= rest
        else pure existing >>= rest) = .ok b
      ↔ (sets = true → ∀ old, existing = some old → old = amount)
        ∧ rest (if sets then some amount else existing) = .ok b := by
  cases sets with
  | false =>
      simp only [Bool.false_eq_true, if_false, false_implies, true_and]
      rfl
  | true =>
      simp only [if_true, true_implies, map_eq_pure_bind, Except.bind_ok_iff, setBound_ok_iff]
      constructor
      · rintro ⟨_, ⟨_, ⟨agrees, rfl⟩, same⟩, done⟩
        cases same
        exact ⟨agrees, done⟩
      · rintro ⟨agrees, done⟩
        exact ⟨some amount, ⟨amount, ⟨agrees, rfl⟩, rfl⟩, done⟩

/-- Two sides are bounds if they do not cross. -/
theorem ordered_ok_iff {low high : Option UInt32} {unit : AmountUnit} {b : Bounds} :
    (match low, high with
      | some low, some high =>
          if high < low then throw (.crossedBounds unit low high) else pure ⟨some low, some high⟩
      | low, high => pure ⟨low, high⟩ : Except Conflict Bounds) = .ok b
      ↔ ⟨low, high⟩ = b ∧ ∀ l h, b.min = some l → b.max = some h → l ≤ h := by
  have unordered : ∀ b : Bounds, b.min = none ∨ b.max = none →
      ∀ l h, b.min = some l → b.max = some h → l ≤ h := by
    rintro b (none | none) l h atL atH
    · rw [none] at atL
      cases atL
    · rw [none] at atH
      cases atH
  have met : ∀ {x : Bounds}, x.min = none ∨ x.max = none →
      ((pure x : Except Conflict Bounds) = .ok b
        ↔ x = b ∧ ∀ l h, b.min = some l → b.max = some h → l ≤ h) := by
    intro x halfOpen
    constructor
    · rintro ⟨⟩
      exact ⟨rfl, unordered _ halfOpen⟩
    · rintro ⟨rfl, -⟩
      rfl
  rcases low with _ | low
  · exact met (.inl rfl)
  · rcases high with _ | high
    · exact met (.inr rfl)
    · dsimp only
      split
      · rename_i crossed
        constructor
        · intro done
          cases done
        · rintro ⟨rfl, ordered⟩
          exact absurd (ordered low high rfl rfl) (UInt32.not_le.2 crossed)
      · rename_i notCrossed
        constructor
        · rintro ⟨⟩
          refine ⟨rfl, ?_⟩
          rintro _ _ ⟨⟩ ⟨⟩
          exact UInt32.not_lt.1 notCrossed
        · rintro ⟨rfl, -⟩
          rfl

theorem restrict_ok_iff {b b' : Bounds} {sign : BoundSign} {unit : AmountUnit} {amount : UInt32} :
    restrict b sign unit amount = .ok b' ↔ Restricts sign amount b b' := by
  unfold restrict
  rw [side_ok_iff, side_ok_iff]
  refine (and_congr_right' (and_congr_right' ordered_ok_iff)).trans ?_
  constructor
  · rintro ⟨below, above, rfl, ordered⟩
    exact ⟨below, above, rfl, rfl, ordered⟩
  · rintro ⟨below, above, min, max, ordered⟩
    refine ⟨below, above, ?_, ordered⟩
    rw [← min, ← max]

theorem Restricts.sound {sign : BoundSign} {amount : UInt32} {b b' : Bounds}
    (restricts : Restricts sign amount b b') : b'.Sound where
  bounds := by
    rw [restricts.min, restricts.max]
    cases sign with
    | minimum | exactly => exact .inl (Option.some_ne_none _)
    | maximum => exact .inr (Option.some_ne_none _)
  ordered := restricts.ordered

end Directive.Expect

end PromptPipeline
