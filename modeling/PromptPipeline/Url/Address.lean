/-
# Url.Address -- IP addresses as hosts

A domain whose last label is a number is an IPv4 address and must be one in
full; the numbers may be octal or hexadecimal and the last one fills the bytes
that are left.  An IPv6 address has eight pieces, one run of which may be left
out, and may end in a dotted quad.
-/
import PromptPipeline.Url.Basic
import PromptPipeline.Text.Basic
import PromptPipeline.Text.Digit

namespace PromptPipeline.Url

set_option autoImplicit false

open Text (isDigitIn readDigits)

/-! ## IPv4 -/

/-- The labels of a domain. -/
def labels (domain : List Char) : List (List Char) := Text.splitAt (· == '.') domain

/-- The digits of an IPv4 number with their base, if its text starts like one. -/
def ipv4Digits? : List Char → Option (Nat × List Char)
  | [] => none
  | '0' :: 'x' :: digits => some (16, digits)
  | '0' :: 'X' :: digits => some (16, digits)
  | '0' :: d :: digits => some (8, d :: digits)
  | s => some (10, s)

/-- The value of an IPv4 number: decimal, octal after a zero, hexadecimal after
`0x`; no digits after the mark are zero. -/
def ipv4Number? (s : List Char) : Option Nat :=
  match ipv4Digits? s with
  | none => none
  | some (base, digits) =>
      if digits.all (isDigitIn base) then some (readDigits base digits)
      else none

/-- Without the empty label that a final dot leaves. -/
def withoutRoot (parts : List (List Char)) : List (List Char) :=
  if parts.getLast? = some [] then parts.dropLast else parts

/-- Whether the last label of a domain is a number, so that the domain has to be
an IPv4 address. -/
def endsInNumber (domain : List Char) : Bool :=
  match (withoutRoot (labels domain)).getLast? with
  | none => false
  | some last => (!last.isEmpty && last.all Char.isDigit) || (ipv4Number? last).isSome

/-- Whether a domain is an IPv4 address. -/
def isIpv4 (domain : List Char) : Bool :=
  let parts := withoutRoot (labels domain)
  parts.length ≤ 4 &&
    match (parts.map ipv4Number?).reverse with
    | some last :: before =>
        last < Nat.pow 256 (4 - before.length) && before.all (·.any (· < 256))
    | _ => false

/-! ## IPv6 -/

/-- A byte in decimal without needless zeros. -/
def isDecimalByte (s : List Char) : Bool :=
  !s.isEmpty && s.all Char.isDigit && (s == ['0'] || s.head? != some '0') && readDigits 10 s < 256

/-- Four bytes in decimal between dots. -/
def isDottedQuad (s : List Char) : Bool :=
  (labels s).length == 4 && (labels s).all isDecimalByte

/-- The pieces of an IPv6 address from a piece on, of which there is room for
`room` more.  `elided` says that the run left out has been seen. -/
def ipv6Rest (elided : Bool) : Nat → List Char → Bool
  | room, [] => elided || room == 0
  | 0, _ :: _ => false
  | room + 1, ':' :: rest => !elided && ipv6Rest true room rest
  | room + 1, c :: rest =>
      let digits := ((c :: rest).takeWhile (isDigitIn 16)).take 4
      match (c :: rest).drop digits.length with
      | [] => elided || room == 0
      | '.' :: _ =>
          !digits.isEmpty && 1 ≤ room && isDottedQuad (c :: rest) && (elided || room == 1)
      | ':' :: more => !more.isEmpty && ipv6Rest elided room more
      | _ => false

/-- Whether the text between brackets is an IPv6 address. -/
def isIpv6 : List Char → Bool
  | ':' :: ':' :: rest => ipv6Rest true 7 rest
  | ':' :: _ => false
  | s => ipv6Rest false 8 s

end PromptPipeline.Url
