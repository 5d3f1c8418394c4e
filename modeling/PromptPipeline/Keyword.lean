/-
# Keyword -- the canonical spelling of keywords

Keywords are written in any case, their words apart by white space or
underscores.  The canonical spelling has upper-case words joined by underscores,
so `prompt template`, `PROMPT_TEMPLATE` and `Prompt  _Template` are one keyword.
-/
import PromptPipeline.Text.Basic

namespace PromptPipeline.Keyword

set_option autoImplicit false

/-- What stands between the words of a keyword. -/
def isSeparator (c : Char) : Bool := Unicode.isBlank c || c == '_'

/-- The canonical spelling of a list of characters. -/
def canonicalChars (s : List Char) : List Char :=
  (Text.joinWith ['_'] (Text.runsBetween isSeparator s)).flatMap Unicode.toUpper

/-- **The canonical spelling of a keyword.** -/
def canonical (s : String) : String := String.ofList (canonicalChars s.toList)

/-- The number of words of a canonical keyword. -/
def wordCount (keyword : String) : Nat := (Text.splitAt (· == '_') keyword.toList).length

end PromptPipeline.Keyword
