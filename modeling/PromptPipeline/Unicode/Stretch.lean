/-
# Unicode.Stretch -- sets of code points as sorted stretches

A character property is data of a standard.  It is kept as a list of stretches
in ascending order; a stretch is a range, or every second member of one, which
is how cased letters alternate.
-/

namespace PromptPipeline.Unicode

set_option autoImplicit false

/-- The code points from `first` to `last` that lie a multiple of `step` after `first`. -/
structure Stretch where
  first : Nat
  last : Nat
  step : Nat
deriving Repr, DecidableEq

/-- Whether a code point lies on the stretch. -/
def Stretch.contains (s : Stretch) (n : Nat) : Bool :=
  s.first ≤ n && n ≤ s.last && (n - s.first) % s.step == 0

/-- A set of code points, its stretches disjoint and in ascending order. -/
abbrev CodeSet := List Stretch

/-- Membership; the search ends at the first stretch that starts above the code point. -/
def CodeSet.contains : CodeSet → Nat → Bool
  | [], _ => false
  | s :: rest, n =>
      if n < s.first then false
      else if n ≤ s.last then (n - s.first) % s.step == 0
      else CodeSet.contains rest n

end PromptPipeline.Unicode
