/-
# Grammar.Token -- the tokens of a command line

White space separates tokens.  A backtick opens or closes a quotation, inside
which white space belongs to the token; the backticks themselves are dropped.  A
token with no text is no token.

Positions count characters, so the source of a token can be cut out of its line
without splitting one.
-/
import PromptPipeline.Text.Basic

namespace PromptPipeline.Grammar

set_option autoImplicit false

open Unicode (isBlank)

/-- A token with the position of its first character in the line. -/
structure Token where
  text : String
  start : Nat
deriving Repr, DecidableEq

namespace Token

/-- A token under construction: where it started and its text so far. -/
abbrev Open := Option (Nat × List Char)

/-- The token under construction, unless its text is empty. -/
def close : Open → List Token
  | none => []
  | some (_, []) => []
  | some (start, c :: text) => [⟨String.ofList (c :: text), start⟩]

/-- The token under construction after one more character of its text. -/
def extend (current : Open) (position : Nat) (c : Char) : Open :=
  match current with
  | none => some (position, [c])
  | some (start, text) => some (start, text ++ [c])

/-- The tokens from a position on. -/
def scan (position : Nat) (inQuotes : Bool) (current : Open) : List Char → List Token
  | [] => close current
  | c :: rest =>
      if c = '`' then scan (position + 1) (!inQuotes) (some (current.getD (position, []))) rest
      else if isBlank c && !inQuotes then
        close current ++ scan (position + 1) inQuotes none rest
      else scan (position + 1) inQuotes (extend current position c) rest

/-- **The tokens of a line.** -/
def ofLine (line : String) : List Token := scan 0 false none line.toList

end Token

end PromptPipeline.Grammar
