/-
# SemanticVersion -- the shape of version numbers

Three numbers between dots, then an optional pre-release after a hyphen and an
optional build after a plus sign.  The numbers may have the digits of any script;
the tags have ASCII letters, digits, dots and hyphens.
-/
import PromptPipeline.Unicode.Class

namespace PromptPipeline.SemanticVersion

set_option autoImplicit false

/-- What follows a number, if there is one. -/
def afterNumber? (s : List Char) : Option (List Char) :=
  if s.head?.any Unicode.isDecimalDigit then some (s.dropWhile Unicode.isDecimalDigit) else none

/-- What follows a dot. -/
def afterDot? : List Char → Option (List Char)
  | '.' :: rest => some rest
  | _ => none

/-- The characters of a pre-release or build tag. -/
def isTagChar (c : Char) : Bool := c.isAlphanum || c == '.' || c == '-'

/-- Whether a text is one tag, not empty. -/
def isTag (s : List Char) : Bool := !s.isEmpty && s.all isTagChar

/-- Whether a text is a build with its plus sign, or nothing. -/
def isBuild : List Char → Bool
  | [] => true
  | '+' :: tag => isTag tag
  | _ => false

/-- Whether a text is a pre-release with its hyphen and a build, each optional. -/
def isSuffix : List Char → Bool
  | '-' :: rest => isTag (rest.takeWhile isTagChar) && isBuild (rest.dropWhile isTagChar)
  | s => isBuild s

/-- **Whether a text is a semantic version.** -/
def isValid (version : String) : Bool :=
  let rest := do
    let s ← afterNumber? version.toList
    let s ← afterDot? s
    let s ← afterNumber? s
    let s ← afterDot? s
    afterNumber? s
  rest.any isSuffix

end PromptPipeline.SemanticVersion
