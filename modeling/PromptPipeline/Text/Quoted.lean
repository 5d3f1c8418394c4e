/-
# Text.Quoted -- a text between quotes, as messages show it

Messages that name a text put it in double quotes and escape what a reader could
not see: the quote and the backslash, the common controls by their letter, and
everything that is not printable or attaches to the character before it by its
code point.
-/
import PromptPipeline.Text.Basic
import PromptPipeline.Unicode.Printable
import PromptPipeline.Unicode.GraphemeExtend

namespace PromptPipeline.Text

set_option autoImplicit false

/-- A number in lower-case hexadecimal digits. -/
def hex (n : Nat) : String := String.ofList (Nat.toDigits 16 n)

/-- One character of a quoted text. -/
def escaped (c : Char) : List Char :=
  match c with
  | '"' => ['\\', '"']
  | '\\' => ['\\', '\\']
  | '\n' => ['\\', 'n']
  | '\r' => ['\\', 'r']
  | '\t' => ['\\', 't']
  | '\x00' => ['\\', '0']
  | c =>
      if Unicode.CodeSet.contains Unicode.graphemeExtend c.toNat
          || !Unicode.CodeSet.contains Unicode.printable c.toNat then
        ['\\', 'u', '\x7b'] ++ (hex c.toNat).toList ++ ['\x7d']
      else [c]

/-- A text between double quotes. -/
def quoted (s : String) : String :=
  String.ofList ('"' :: s.toList.flatMap escaped ++ ['"'])

end PromptPipeline.Text
