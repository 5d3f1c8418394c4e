/-
# Json.Basic -- JSON values, whole or cut off

A `Json` is what a text says up to where it stops being JSON.  A text without a
fault gives a value without one; in a faulty text the fault stands at the place
where it was met, so a reader that goes through the value in order meets wrong
types and faults in the order of the text.
-/

namespace PromptPipeline

set_option autoImplicit false

namespace Json

/-- How a text stops being JSON. -/
inductive Fault
  | endInValue
  | endInString
  | endInList
  | endInObject
  | expectedColon
  | expectedListEnd
  | expectedObjectEnd
  | expectedWord
  | expectedValue
  | invalidEscape
  | invalidNumber
  | numberOutOfRange
  | controlCharacter
  | keyNotString
  | loneSurrogate
  | endOfHexEscape
  | trailingComma
  | trailingCharacters
  | tooDeep
deriving Repr, DecidableEq

/-- The wording of a fault. -/
def Fault.message : Fault → String
  | endInValue => "EOF while parsing a value"
  | endInString => "EOF while parsing a string"
  | endInList => "EOF while parsing a list"
  | endInObject => "EOF while parsing an object"
  | expectedColon => "expected `:`"
  | expectedListEnd => "expected `,` or `]`"
  | expectedObjectEnd => "expected `,` or `\x7d`"
  | expectedWord => "expected ident"
  | expectedValue => "expected value"
  | invalidEscape => "invalid escape"
  | invalidNumber => "invalid number"
  | numberOutOfRange => "number out of range"
  | controlCharacter => "control character (\\u0000-\\u001F) found while parsing a string"
  | keyNotString => "key must be a string"
  | loneSurrogate => "lone leading surrogate in hex escape"
  | endOfHexEscape => "unexpected end of hex escape"
  | trailingComma => "trailing comma"
  | trailingCharacters => "trailing characters"
  | tooDeep => "recursion limit exceeded"

/-- A number as it is written: whole, or with a fraction or an exponent. -/
inductive Number
  | int (n : Int)
  | decimal (negative : Bool) (digits : Nat) (exponent : Int)
deriving Repr, DecidableEq

end Json

/-- A JSON value.  `cut` is the fault inside a list or object that never closes, with
the members before it; `broken` stands where there is no value, `noText` for a
string whose escapes stand for no text. -/
inductive Json
  | null
  | bool (value : Bool)
  | number (value : Json.Number)
  | string (value : String)
  | list (items : List Json) (cut : Option Json.Fault := none)
  | object (members : List (String × Json)) (cut : Option Json.Fault := none)
  | broken (fault : Json.Fault)
  | noText (fault : Json.Fault)
deriving Repr, Inhabited

namespace Json

/-- A natural number. -/
def nat (n : Nat) : Json := .number (.int n)

/-- The value of the last member of a name. -/
def get? (name : String) : Json → Option Json
  | .object members _ => (members.reverse.lookup name)
  | _ => none

end Json

end PromptPipeline
