/-
# Url.Domain -- domain names as hosts

How domain names are spelled in any script is a standard of its own, which changes with
Unicode.  A host is checked with a reading of domain names (`Reading`), whichever it is.
-/
import PromptPipeline.Url.Address

namespace PromptPipeline.Url.Domain

set_option autoImplicit false

open Text (hexValue?)

/-! ## Percent escapes -/

/-- The UTF-8 bytes of a list of characters. -/
def utf8 (s : List Char) : List UInt8 := (String.ofList s).toUTF8.toList

/-- The bytes of a text with its percent escapes resolved; a percent sign without
two hexadecimal digits stays. -/
def percentDecoded : List Char → List UInt8
  | [] => []
  | '%' :: a :: b :: rest =>
      match hexValue? a, hexValue? b with
      | some high, some low => UInt8.ofNat (high * 16 + low) :: percentDecoded rest
      | _, _ => '%'.toNat.toUInt8 :: percentDecoded (a :: b :: rest)
  | c :: rest => utf8 [c] ++ percentDecoded rest

/-- The characters that bytes in UTF-8 stand for. -/
def decodeUtf8? (bytes : List UInt8) : Option (List Char) :=
  (String.fromUTF8? ⟨bytes.toArray⟩).map String.toList

/-- The ASCII characters that no domain has. -/
def isForbidden (c : Char) : Bool :=
  c ≤ ' ' || c == '\x7f' ||
    ['#', '%', '/', ':', '<', '>', '?', '@', '[', '\\', ']', '^', '|'].contains c

/-! ## Normal forms -/

/-- A reading of domain names: the labels of a domain, mapped and decoded, unless it is
refused. -/
abbrev Reading := List Char → Option (List (List Char))

/-- **The form in which domains are compared**: percent escapes are resolved and
characters mapped, and the labels that are spelled in ASCII are decoded. -/
def normal? (labels? : Reading) (host : List Char) : Option (List Char) := do
  let domain := Text.joinWith ['.'] (← labels? (← decodeUtf8? (percentDecoded host)))
  guard (!domain.any isForbidden)
  return domain

end PromptPipeline.Url.Domain
