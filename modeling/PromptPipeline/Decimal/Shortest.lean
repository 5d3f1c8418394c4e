/-
# Decimal.Shortest -- the fewest digits that read back

A binary floating-point number stands for all reals that round to it.  Its
shortest decimal has the fewest digits of any decimal in that interval, and of
several with as few digits it is the nearest.  The ends of the interval belong to
it when the significand is even.

All arithmetic is exact, on natural numbers.
-/

namespace PromptPipeline.Decimal

set_option autoImplicit false

/-- A positive decimal: its digits as a number, times a power of ten. -/
structure Scaled where
  digits : Nat
  exponent : Int
deriving Repr, DecidableEq

/-- A positive rational as a numerator over a denominator. -/
structure Ratio where
  num : Nat
  den : Nat
deriving Repr, DecidableEq

namespace Ratio

/-- `n · 2 ^ q`. -/
def binary (n : Nat) (q : Int) : Ratio :=
  match q with
  | .ofNat k => ⟨n * Nat.pow 2 k, 1⟩
  | .negSucc k => ⟨n, Nat.pow 2 (k + 1)⟩

/-- `n · 10 ^ e`. -/
def decimal (n : Nat) (e : Int) : Ratio :=
  match e with
  | .ofNat k => ⟨n * Nat.pow 10 k, 1⟩
  | .negSucc k => ⟨n, Nat.pow 10 (k + 1)⟩

/-- Less than. -/
def lt (a b : Ratio) : Bool := a.num * b.den < b.num * a.den

/-- At most. -/
def le (a b : Ratio) : Bool := a.num * b.den ≤ b.num * a.den

/-- The whole part of `a / b`. -/
def quotient (a b : Ratio) : Nat := (a.num * b.den) / (a.den * b.num)

/-- The distance between two rationals. -/
def distance (a b : Ratio) : Ratio :=
  ⟨a.num * b.den - b.num * a.den + (b.num * a.den - a.num * b.den), a.den * b.den⟩

end Ratio

/-- The reals that round to a number, with whether the ends belong to them. -/
structure Rounding where
  low : Ratio
  value : Ratio
  high : Ratio
  closed : Bool

/-- The reals that round to `m · 2 ^ q`; `atPower` says that the numbers below lie
twice as close as those above. -/
def Rounding.of (m : Nat) (q : Int) (atPower : Bool) : Rounding where
  low := .binary (4 * m - if atPower then 1 else 2) (q - 2)
  value := .binary (4 * m) (q - 2)
  high := .binary (4 * m + 2) (q - 2)
  closed := m % 2 == 0

/-- Whether a decimal rounds to the number. -/
def Rounding.holds (r : Rounding) (d : Scaled) : Bool :=
  let x := Ratio.decimal d.digits d.exponent
  if r.closed then r.low.le x && x.le r.high else r.low.lt x && x.lt r.high

/-- The least power of ten above the value, searched downwards. -/
def magnitude (v : Ratio) : Nat → Int → Int
  | 0, e => e
  | fuel + 1, e => if (Ratio.decimal 1 (e - 1)).le v then e else magnitude v fuel (e - 1)

/-- The decimal with a number of digits that rounds to the number and is nearest. -/
def onGrid? (r : Rounding) (e : Int) (count : Nat) : Option Scaled :=
  let k := e - count
  let below : Scaled := ⟨r.value.quotient (.decimal 1 k), k⟩
  let above : Scaled := ⟨below.digits + 1, k⟩
  let far (d : Scaled) := r.value.distance (.decimal d.digits d.exponent)
  match r.holds below, r.holds above with
  | true, true => if (far above).lt (far below) then some above else some below
  | true, false => some below
  | false, true => some above
  | false, false => none

/-- The decimal on the first grid that has one, from a number of digits on. -/
def firstGrid (r : Rounding) (e : Int) : Nat → Nat → Scaled
  | 0, count => ⟨r.value.quotient (.decimal 1 (e - count)), e - count⟩
  | fuel + 1, count => (onGrid? r e count).getD (firstGrid r e fuel (count + 1))

/-- **The shortest decimal that rounds to `m · 2 ^ q`**, for a significand of at most
53 bits. -/
def shortest (m : Nat) (q : Int) (atPower : Bool) : Scaled :=
  let r := Rounding.of m q atPower
  firstGrid r (magnitude r.value 700 310) 17 1

end PromptPipeline.Decimal
