/-
# Unicode.Class -- the character classes and case mappings of the language

Names, keywords and tokens are read with the Unicode classes, not their ASCII
parts.  `toUpper` and `toLower` are the unconditional mappings of one character,
so a result may have several characters (`ß` goes to `SS`) and never depends on
the neighbours.
-/
import PromptPipeline.Unicode.Alphabetic
import PromptPipeline.Unicode.Number
import PromptPipeline.Unicode.Cased
import PromptPipeline.Unicode.CaseMapping

namespace PromptPipeline.Unicode

set_option autoImplicit false

/-! ## Classes -/

/-- The property `Alphabetic`. -/
def isAlphabetic (c : Char) : Bool := CodeSet.contains alphabetic c.toNat

/-- A decimal digit of any script. -/
def isDecimalDigit (c : Char) : Bool := CodeSet.contains decimalDigit c.toNat

/-- A number of any kind: a digit, a letter-like number or another one. -/
def isNumber (c : Char) : Bool := CodeSet.contains number c.toNat

/-- A letter or a number. -/
def isAlphanumeric (c : Char) : Bool := isAlphabetic c || isNumber c

/-- The property `Uppercase`. -/
def isUppercase (c : Char) : Bool := CodeSet.contains uppercase c.toNat

/-- The property `Lowercase`. -/
def isLowercase (c : Char) : Bool := CodeSet.contains lowercase c.toNat

/-- The code points with the property `White_Space`. -/
def whiteSpace : CodeSet := [
  ⟨0x9, 0xD, 1⟩, ⟨0x20, 0x20, 1⟩, ⟨0x85, 0x85, 1⟩, ⟨0xA0, 0xA0, 1⟩, ⟨0x1680, 0x1680, 1⟩,
  ⟨0x2000, 0x200A, 1⟩, ⟨0x2028, 0x2029, 1⟩, ⟨0x202F, 0x202F, 1⟩, ⟨0x205F, 0x205F, 1⟩,
  ⟨0x3000, 0x3000, 1⟩ ]

/-- White space: what separates tokens and is trimmed from both ends of a text. -/
def isBlank (c : Char) : Bool := CodeSet.contains whiteSpace c.toNat

/-! ## Case -/

/-- The upper-case mapping of one character. -/
def toUpper (c : Char) : List Char :=
  match upperExpansions.lookup c.toNat with
  | some image => image.map Char.ofNat
  | none => [Char.ofNat ((Shift.find? upperShifts c.toNat).getD c.toNat)]

/-- The lower-case mapping of one character. -/
def toLower (c : Char) : List Char :=
  match lowerExpansions.lookup c.toNat with
  | some image => image.map Char.ofNat
  | none => [Char.ofNat ((Shift.find? lowerShifts c.toNat).getD c.toNat)]

/-- What a character is compared by when case does not matter: the full case folding, but
for Cherokee, whose letters fold to lower case here.  Folding is upper case back in lower
case, but a dotless `ı` is no `i`, and the upper case of `ẞ` does not spell it out. -/
def foldCase (c : Char) : List Char :=
  if c = 'ı' then [c]
  else if c = 'ẞ' then ['s', 's']
  else (toUpper c).flatMap toLower

/-- A text in upper case, character by character. -/
def upperText (s : String) : String := String.ofList (s.toList.flatMap toUpper)

end PromptPipeline.Unicode
