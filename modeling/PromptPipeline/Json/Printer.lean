/-
# Json.Printer -- JSON text

`compact` has no white space; `pretty` has one member or item a line, indented by
two spaces.
-/
import PromptPipeline.Json.Basic

namespace PromptPipeline.Json

set_option autoImplicit false

/-- One character inside a string. -/
def escapedChar (c : Char) : List Char :=
  match c with
  | '"' => ['\\', '"']
  | '\\' => ['\\', '\\']
  | '\x08' => ['\\', 'b']
  | '\x0c' => ['\\', 'f']
  | '\n' => ['\\', 'n']
  | '\r' => ['\\', 'r']
  | '\t' => ['\\', 't']
  | c =>
      if c < ' ' then
        ['\\', 'u', '0', '0'] ++ (if c.toNat < 16 then ['0'] else []) ++ Nat.toDigits 16 c.toNat
      else [c]

/-- A string with its quotes. -/
def stringText (s : String) : String := String.ofList ('"' :: s.toList.flatMap escapedChar ++ ['"'])

/-- The text of a number; an exponent stands for a fraction too. -/
def numberText : Number → String
  | .int n => toString n
  | .decimal negative digits exponent =>
      (if negative then "-" else "") ++ toString digits ++ "e" ++ toString exponent

mutual

/-- A value without white space. -/
def compact : Json → String
  | .null => "null"
  | .bool b => if b then "true" else "false"
  | .number n => numberText n
  | .string s => stringText s
  | .list items _ => "[" ++ compactItems items ++ "]"
  | .object members _ => "\x7b" ++ compactMembers members ++ "\x7d"
  | .broken _ => "null"
  | .noText _ => "null"

/-- Items between commas. -/
def compactItems : List Json → String
  | [] => ""
  | [item] => compact item
  | item :: rest => compact item ++ "," ++ compactItems rest

/-- Members between commas. -/
def compactMembers : List (String × Json) → String
  | [] => ""
  | [(name, value)] => stringText name ++ ":" ++ compact value
  | (name, value) :: rest => stringText name ++ ":" ++ compact value ++ "," ++ compactMembers rest

end

/-- A line end and the indentation of a depth. -/
def newLine (depth : Nat) : String := "\n" ++ String.ofList (List.replicate (2 * depth) ' ')

mutual

/-- A value at a depth, over several lines. -/
def prettyAt (depth : Nat) : Json → String
  | .null => "null"
  | .bool b => if b then "true" else "false"
  | .number n => numberText n
  | .string s => stringText s
  | .list [] _ => "[]"
  | .list (item :: rest) _ =>
      "[" ++ newLine (depth + 1) ++ prettyAt (depth + 1) item ++ prettyItems (depth + 1) rest
        ++ newLine depth ++ "]"
  | .object [] _ => "\x7b\x7d"
  | .object ((name, value) :: rest) _ =>
      "\x7b" ++ newLine (depth + 1) ++ stringText name ++ ": " ++ prettyAt (depth + 1) value
        ++ prettyMembers (depth + 1) rest ++ newLine depth ++ "\x7d"
  | .broken _ => "null"
  | .noText _ => "null"

/-- The items after the first. -/
def prettyItems (depth : Nat) : List Json → String
  | [] => ""
  | item :: rest => "," ++ newLine depth ++ prettyAt depth item ++ prettyItems depth rest

/-- The members after the first. -/
def prettyMembers (depth : Nat) : List (String × Json) → String
  | [] => ""
  | (name, value) :: rest =>
      "," ++ newLine depth ++ stringText name ++ ": " ++ prettyAt depth value
        ++ prettyMembers depth rest

end

/-- **A value over several lines.** -/
def pretty (j : Json) : String := prettyAt 0 j

end PromptPipeline.Json
