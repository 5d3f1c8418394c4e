/-
# Idna.Punycode -- labels spelled in ASCII

A label with other characters than ASCII is spelled with its ASCII characters first
and then, behind a hyphen, how far each other character is from the one before it,
counted over characters and places.
-/
import PromptPipeline.Text.Basic

namespace PromptPipeline.Idna.Punycode

set_option autoImplicit false

/-! ## Numbers -/

/-- The value of a digit in base 36. -/
def digit? (c : Char) : Option Nat :=
  if 'a' ≤ c ∧ c ≤ 'z' then some (c.toNat - 'a'.toNat)
  else if c.isDigit then some (c.toNat - '0'.toNat + 26)
  else none

/-- The least digit that does not end a number, at position `k`. -/
def threshold (bias k : Nat) : Nat := min 26 (max 1 (k - bias))

/-- The number at the start of a text, added to `sum`, and what follows it; a digit at
position `k` counts `weight` times. -/
def readNumber? (bias k weight sum : Nat) : List Char → Option (Nat × List Char)
  | [] => none
  | c :: rest =>
      match digit? c with
      | none => none
      | some d =>
          let t := threshold bias k
          let sum := sum + d * weight
          if d < t then some (sum, rest)
          else readNumber? bias (k + 36) (weight * (36 - t)) sum rest

/-- Reduce a distance until it is at most 455, and count how often. -/
def reduce : Nat → Nat → Nat × Nat
  | 0, delta => (0, delta)
  | fuel + 1, delta =>
      if delta ≤ 455 then (0, delta)
      else
        let (count, last) := reduce fuel (delta / 35)
        (count + 1, last)

/-- The bias after a distance, when there are `length` characters. -/
def adapt (isFirst : Bool) (delta length : Nat) : Nat :=
  let delta := if isFirst then delta / 700 else delta / 2
  let (count, last) := reduce delta (delta + delta / length)
  36 * count + 36 * last / (last + 38)

/-! ## Decoding -/

/-- The characters of a label so far, the place and the code point reached, and the
bias. -/
structure Decoding where
  chars : List Char
  place : Nat := 0
  code : Nat := 128
  bias : Nat := 72

/-- With one more character for each number of a text.  Every number takes some fuel
and some text. -/
def Decoding.read? : Nat → Decoding → List Char → Option (List Char)
  | _, d, [] => some d.chars
  | 0, _, _ => none
  | fuel + 1, d, s =>
      match readNumber? d.bias 36 1 d.place s with
      | none => none
      | some (reached, rest) =>
          let length := d.chars.length + 1
          let code := d.code + reached / length
          let place := reached % length
          if code.isValidChar then
            let chars := d.chars.take place ++ Char.ofNat code :: d.chars.drop place
            read? fuel
              ⟨chars, place + 1, code, adapt (d.place = 0) (reached - d.place) length⟩ rest
          else none

/-- The label that is spelled by a text, all of it ASCII. -/
def decode? (s : List Char) : Option (List Char) :=
  let behind := (s.reverse.takeWhile (· ≠ '-')).reverse
  let basic := (s.take (s.length - behind.length)).dropLast
  if s.all (·.toNat < 128) then Decoding.read? behind.length { chars := basic } behind else none

end PromptPipeline.Idna.Punycode
