/-
# Idna.Label -- international domain names

A domain is mapped character by character, brought into its normal form and split into
labels.  A label that starts with `xn--` spells another one, which has to be one that
mapping and normal form leave alone.  No label starts with a mark, joiners stand only
where they matter, and if some label is written from right to left, each has only one
direction.
-/
import PromptPipeline.Idna.Composition
import PromptPipeline.Idna.Direction
import PromptPipeline.Idna.Joining
import PromptPipeline.Idna.Mapping
import PromptPipeline.Idna.Punycode
import PromptPipeline.Unicode.Mark

namespace PromptPipeline.Idna

set_option autoImplicit false

open Unicode (CodeSet)

/-- Whether a character is in a set of code points. -/
def isIn (set : CodeSet) (c : Char) : Bool := set.contains c.toNat

/-! ## Joiners -/

/-- Whether the next character that joining does not pass over joins. -/
def joins (set : CodeSet) (s : List Char) : Bool :=
  (s.dropWhile (isIn transparent)).head?.any (isIn set)

/-- Whether joiners stand only behind a virama, or a non-joiner between letters that
would join; `before` is what stands before the text, last character first. -/
def joinersFit (before : List Char) : List Char → Bool
  | [] => true
  | c :: rest =>
      let afterVirama := before.head?.any (isIn virama)
      (if c = '\u200d' then afterVirama
        else if c = '\u200c' then afterVirama || (joins joinsLeft before && joins joinsRight rest)
        else true)
        && joinersFit (c :: before) rest

/-! ## Directions -/

/-- Whether a character makes a domain one that has two directions. -/
def isRightward (c : Char) : Bool := isIn rightToLeft c || isIn arabicNumber c

/-- Whether a character is written from left to right. -/
def isLeftToRight (c : Char) : Bool :=
  !isRightward c && !isIn europeanNumber c && !isIn nonspacing c && !isIn neutral c

/-- Whether a label has one direction: it starts with a letter, has none of the other
direction, no two kinds of digits, and ends in a letter or a digit. -/
def hasOneDirection (label : List Char) : Bool :=
  let last := label.reverse.dropWhile (isIn nonspacing)
  match label with
  | [] => true
  | first :: _ =>
      if isIn rightToLeft first then
        !label.any isLeftToRight
          && last.head?.any (fun c => isRightward c || isIn europeanNumber c)
          && !(label.any (isIn arabicNumber) && label.any (isIn europeanNumber))
      else
        isLeftToRight first && !label.any isRightward
          && last.head?.any fun c => isLeftToRight c || isIn europeanNumber c

/-! ## Labels -/

/-- The label that a mapped one stands for. -/
def decodeLabel? (label : List Char) : Option (List Char) :=
  match Text.afterLead? "xn--".toList label with
  | none => some label
  | some spelled =>
      match Punycode.decode? spelled with
      | none => none
      | some decoded =>
          if decoded.any (128 ≤ ·.toNat) && decoded.all isValid && normalForm decoded == decoded
              && !"xn--".toList.isPrefixOf decoded then some decoded
          else none

/-- Whether a label keeps to the rules that do not depend on other labels. -/
def isLabel (label : List Char) : Bool :=
  !label.head?.any (isIn Unicode.mark) && joinersFit [] label

/-- **The labels of a domain**, mapped, in normal form and decoded, unless a character or
a label is refused. -/
def labels? (domain : List Char) : Option (List (List Char)) := do
  let mapped := normalForm (← domain.mapM map?).flatten
  let labels ← (Text.splitAt (· == '.') mapped).mapM decodeLabel?
  guard (labels.all isLabel)
  guard (!labels.any (·.any isRightward) || labels.all hasOneDirection)
  return labels

end PromptPipeline.Idna
