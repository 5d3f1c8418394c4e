/-
# Json.Reader -- JSON values from text

`Json.ofText` reads a value and stops at the first fault, which it leaves in the
value.  Every function takes fuel; the length of the text is enough, since each
call consumes a character.
-/
import PromptPipeline.Json.Basic
import PromptPipeline.Text.Basic
import PromptPipeline.Text.Digit

namespace PromptPipeline.Json

set_option autoImplicit false

open Text (readDigits)

/-- The white space between tokens. -/
def isSpace (c : Char) : Bool := c == ' ' || c == '\n' || c == '\t' || c == '\r'

/-- Without white space at the start. -/
def skip (s : List Char) : List Char := s.dropWhile isSpace

/-- What reading left: the text after what was read, or nothing after a fault. -/
abbrev Rest := Option (List Char)

/-! ## Words and numbers -/

/-- The remaining characters of a word. -/
def readWord (value : Json) : List Char → List Char → Json × Rest
  | [], s => (value, some s)
  | _ :: _, [] => (.broken .endInValue, none)
  | w :: word, c :: s => if w = c then readWord value word s else (.broken .expectedWord, none)

/-- The exponent of a number after its `e`. -/
def readExponent (negative : Bool) (digits : Nat) (scale : Int) (s : List Char) : Json × Rest :=
  let (minus, s) : Bool × List Char :=
    match s with
    | '+' :: rest => (false, rest)
    | '-' :: rest => (true, rest)
    | s => (false, s)
  match s with
  | [] => (.broken .endInValue, none)
  | c :: _ =>
      if c.isDigit then
        let e : Int := readDigits 10 (s.takeWhile Char.isDigit)
        (.number (.decimal negative digits (scale + if minus then -e else e)),
          some (s.dropWhile Char.isDigit))
      else (.broken .invalidNumber, none)

/-- The fraction and exponent of a number after its whole part. -/
def readFraction (negative : Bool) (whole : Nat) (s : List Char) : Json × Rest :=
  match s with
  | '.' :: rest =>
      let fraction := rest.takeWhile Char.isDigit
      let after := rest.dropWhile Char.isDigit
      let digits := whole * Nat.pow 10 fraction.length + readDigits 10 fraction
      let scale : Int := -(fraction.length : Int)
      match fraction, after with
      | [], [] => (.broken .endInValue, none)
      | [], _ :: _ => (.broken .invalidNumber, none)
      | _, 'e' :: exponent => readExponent negative digits scale exponent
      | _, 'E' :: exponent => readExponent negative digits scale exponent
      | _, _ => (.number (.decimal negative digits scale), some after)
  | 'e' :: exponent => readExponent negative whole 0 exponent
  | 'E' :: exponent => readExponent negative whole 0 exponent
  | s =>
      (.number (if negative && whole == 0 then .decimal true 0 0
        else .int (if negative then -(whole : Int) else whole)), some s)

/-- A number after its sign. -/
def readNumber (negative : Bool) (s : List Char) : Json × Rest :=
  match s with
  | '0' :: rest =>
      if rest.head?.any Char.isDigit then (.broken .invalidNumber, none)
      else readFraction negative 0 rest
  | c :: _ =>
      if c.isDigit then
        readFraction negative (readDigits 10 (s.takeWhile Char.isDigit)) (s.dropWhile Char.isDigit)
      else (.broken .invalidNumber, none)
  | [] => (.broken .invalidNumber, none)

/-! ## Strings -/

/-- Four hexadecimal digits. -/
def readHex (s : List Char) : Except Fault (Nat × List Char) :=
  if Text.byteLength s < 4 then .error .endInString
  else
    match (s.take 4).mapM Text.hexValue? with
    | some [a, b, c, d] => .ok (((a * 16 + b) * 16 + c) * 16 + d, s.drop 4)
    | _ => .error .invalidEscape

/-- The characters that one escape after its backslash stands for.  The inner fault
is that the escape stands for no character, which does not end the text. -/
def readEscape (s : List Char) : Except Fault (Except Fault Char × List Char) :=
  match s with
  | [] => .error .endInString
  | '"' :: r => .ok (.ok '"', r)
  | '\\' :: r => .ok (.ok '\\', r)
  | '/' :: r => .ok (.ok '/', r)
  | 'b' :: r => .ok (.ok '\x08', r)
  | 'f' :: r => .ok (.ok '\x0c', r)
  | 'n' :: r => .ok (.ok '\n', r)
  | 'r' :: r => .ok (.ok '\r', r)
  | 't' :: r => .ok (.ok '\t', r)
  | 'u' :: r => do
      let (high, r) ← readHex r
      if 0xDC00 ≤ high ∧ high ≤ 0xDFFF then return (.error .loneSurrogate, r)
      else if 0xD800 ≤ high ∧ high ≤ 0xDBFF then
        match r with
        | [] => throw .endInString
        | '\\' :: [] => throw .endInString
        | '\\' :: 'u' :: low =>
            let (low, after) ← readHex low
            if 0xDC00 ≤ low ∧ low ≤ 0xDFFF then
              return (.ok (Char.ofNat (0x10000 + (high - 0xD800) * 0x400 + (low - 0xDC00))), after)
            else return (.error .loneSurrogate, r)
        | _ => return (.error .endOfHexEscape, r)
      else return (.ok (Char.ofNat high), r)
  | _ => .error .invalidEscape

/-- The rest of a string after its opening quote: its text in reverse, or the first
fault that leaves it without one. -/
def readString (text : Except Fault (List Char)) :
    Nat → List Char → Except Fault (Except Fault String × List Char)
  | _, [] => .error .endInString
  | 0, _ => .error .endInString
  | _ + 1, '"' :: rest => .ok (text.map fun t => String.ofList t.reverse, rest)
  | fuel + 1, '\\' :: rest => do
      let (c, after) ← readEscape rest
      let text := do
        let t ← text
        let c ← c
        return c :: t
      readString text fuel after
  | fuel + 1, c :: rest =>
      if c < ' ' then .error .controlCharacter
      else readString (text.map (c :: ·)) fuel rest

/-! ## Values -/

mutual

/-- A value. -/
def readValue : Nat → List Char → Json × Rest
  | 0, _ => (.broken .endInValue, none)
  | fuel + 1, s =>
      match skip s with
      | [] => (.broken .endInValue, none)
      | 'n' :: rest => readWord .null ['u', 'l', 'l'] rest
      | 't' :: rest => readWord (.bool true) ['r', 'u', 'e'] rest
      | 'f' :: rest => readWord (.bool false) ['a', 'l', 's', 'e'] rest
      | '-' :: rest => readNumber true rest
      | '"' :: rest =>
          match readString (.ok []) rest.length.succ rest with
          | .error fault => (.broken fault, none)
          | .ok (.error fault, after) => (.noText fault, some after)
          | .ok (.ok text, after) => (.string text, some after)
      | '[' :: rest => readItems fuel [] rest
      | '\x7b' :: rest => readMembers fuel [] rest
      | c :: rest =>
          if c.isDigit then readNumber false (c :: rest) else (.broken .expectedValue, none)

/-- The items of a list after its bracket or after an item; the items so far are in
reverse. -/
def readItems : Nat → List Json → List Char → Json × Rest
  | 0, items, _ => (.list items.reverse (some .endInList), none)
  | fuel + 1, items, s =>
      match items, skip s with
      | items, [] => (.list items.reverse (some .endInList), none)
      | items, ']' :: rest => (.list items.reverse, some rest)
      | [], s => readItem fuel [] s
      | item :: before, ',' :: rest =>
          match skip rest with
          | [] => (.list (item :: before).reverse (some .endInValue), none)
          | ']' :: _ => (.list (item :: before).reverse (some .trailingComma), none)
          | s => readItem fuel (item :: before) s
      | items, _ => (.list items.reverse (some .expectedListEnd), none)

/-- One item and those after it. -/
def readItem : Nat → List Json → List Char → Json × Rest
  | 0, items, _ => (.list items.reverse (some .endInList), none)
  | fuel + 1, items, s =>
      match readValue fuel s with
      | (value, some rest) => readItems fuel (value :: items) rest
      | (value, none) => (.list (value :: items).reverse, none)

/-- The members of an object after its brace or after a member; the members so far
are in reverse. -/
def readMembers : Nat → List (String × Json) → List Char → Json × Rest
  | 0, members, _ => (.object members.reverse (some .endInObject), none)
  | fuel + 1, members, s =>
      match members, skip s with
      | members, [] => (.object members.reverse (some .endInObject), none)
      | members, '\x7d' :: rest => (.object members.reverse, some rest)
      | [], s => readMember fuel [] s
      | member :: before, ',' :: rest =>
          match skip rest with
          | [] => (.object (member :: before).reverse (some .endInValue), none)
          | '\x7d' :: _ => (.object (member :: before).reverse (some .trailingComma), none)
          | s => readMember fuel (member :: before) s
      | members, _ => (.object members.reverse (some .expectedObjectEnd), none)

/-- One member and those after it. -/
def readMember : Nat → List (String × Json) → List Char → Json × Rest
  | 0, members, _ => (.object members.reverse (some .endInObject), none)
  | fuel + 1, members, s =>
      match s with
      | '"' :: rest =>
          match readString (.ok []) rest.length.succ rest with
          | .error fault => (.object members.reverse (some fault), none)
          | .ok (.error fault, _) => (.object members.reverse (some fault), none)
          | .ok (.ok name, after) =>
              match skip after with
              | [] => (.object members.reverse (some .endInObject), none)
              | ':' :: rest =>
                  match readValue fuel rest with
                  | (value, some rest) => readMembers fuel ((name, value) :: members) rest
                  | (value, none) => (.object ((name, value) :: members).reverse, none)
              | _ => (.object members.reverse (some .expectedColon), none)
      | _ => (.object members.reverse (some .keyNotString), none)

end

/-- **The value that a text says**, and the fault of having more than white space
after it. -/
def ofText (text : String) : Json × Option Fault :=
  let s := text.toList
  match readValue (3 * s.length + 3) s with
  | (value, some rest) => (value, if (skip rest).isEmpty then none else some .trailingCharacters)
  | (value, none) => (value, none)

end PromptPipeline.Json
