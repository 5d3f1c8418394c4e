/-
# Directive.Expect -- `EXPECT`

What the result of a template must satisfy: amounts with bounds, or a format.  A
bound is never redefined, the bounds of a unit never cross, and there is one format.
-/
import PromptPipeline.Directive.Basic

namespace PromptPipeline.Directive.Expect

set_option autoImplicit false

/-- The name of the directive. -/
def name : String := "EXPECT"

/-- The amount that a word spells: decimal digits that fit into 32 bits, after an
optional plus sign. -/
def amount? (word : String) : Option UInt32 :=
  let digits :=
    match word.toList with
    | '+' :: rest => rest
    | s => s
  if digits.isEmpty || !digits.all Char.isDigit then none
  else
    let n := digits.foldl (fun n c => n * 10 + (c.toNat - '0'.toNat)) 0
    if n < UInt32.size then some (UInt32.ofNat n) else none

/-- Whether a word is `JSON` in any ASCII case. -/
def isJson (word : String) : Bool := word.toList.map Char.toUpper == "JSON".toList

/-- A format, or a sign, an amount and a unit. -/
def parse (a : Arguments) : Except ParseError Command :=
  match a.words with
  | [word] =>
      if isJson word then .ok (.expectFormat .json)
      else .error (.invalidArguments (.unknownExpectation a.line))
  | [signWord, amountWord, unitWord] =>
      match BoundSign.ofKeyword? signWord with
      | none => .error (.invalidArguments (.unknownSign signWord))
      | some sign =>
          match amount? amountWord with
          | none => .error (.invalidArguments (.invalidAmount amountWord))
          | some amount =>
              match AmountUnit.ofKeyword? unitWord with
              | none => .error (.invalidArguments (.unknownUnit unitWord))
              | some unit => .ok (.expectAmount sign unit amount)
  | _ => .error (.invalidArguments (.unknownExpectation a.line))

/-- The line of the command. -/
def write : Command → Except ParseError String
  | .expectAmount sign unit amount =>
      .ok ("EXPECT " ++ sign.word ++ " " ++ toString amount.toNat ++ " " ++ unit.word)
  | .expectFormat format => .ok ("EXPECT " ++ format.word)
  | other => .error (.wrongCommand name other.kind)

/-! ## Merging bounds -/

/-- A bound after one more command that sets it, if the two agree. -/
def setBound (isUpper : Bool) (unit : AmountUnit) (amount : UInt32) :
    Option UInt32 → Except Conflict UInt32
  | none => .ok amount
  | some existing =>
      if existing = amount then .ok amount else .error (.bound isUpper unit existing amount)

/-- The bounds after one more expectation. -/
def restrict (bounds : Bounds) (sign : BoundSign) (unit : AmountUnit) (amount : UInt32) :
    Except Conflict Bounds := do
  let min ←
    if sign.boundsBelow then some <$> setBound false unit amount bounds.min else pure bounds.min
  let max ←
    if sign.boundsAbove then some <$> setBound true unit amount bounds.max else pure bounds.max
  match min, max with
  | some low, some high =>
      if high < low then throw (.crossedBounds unit low high) else return ⟨some low, some high⟩
  | min, max => return ⟨min, max⟩

/-- The format after one more command that sets it, if the two agree. -/
def setFormat (format : ResultFormat) : Option ResultFormat → Except Conflict ResultFormat
  | none => .ok format
  | some existing =>
      if existing = format then .ok format else .error (.format existing format)

/-- Add the expectation to the template. -/
def onTemplate : Command → Edit Draft
  | .expectAmount sign unit amount, d =>
      match restrict ((d.template.expectations.get unit).getD {}) sign unit amount with
      | .ok bounds =>
          .ok { d with
            template :=
              { d.template with expectations := d.template.expectations.set unit bounds } }
      | .error clash => refuse (.conflict clash) d
  | .expectFormat format, d =>
      match setFormat format d.template.format with
      | .ok format => .ok { d with template := { d.template with format := some format } }
      | .error clash => refuse (.conflict clash) d
  | other, d => refuse (.wrongCommand name other.kind) d

/-! ## Taking back -/

/-- The commands that set the bounds of a unit: one if they coincide. -/
def boundCommands (unit : AmountUnit) (bounds : Bounds) : List Command :=
  match bounds.min, bounds.max with
  | some low, some high =>
      if low = high then [.expectAmount .exactly unit low]
      else [.expectAmount .minimum unit low, .expectAmount .maximum unit high]
  | some low, none => [.expectAmount .minimum unit low]
  | none, some high => [.expectAmount .maximum unit high]
  | none, none => []

/-- The expectations of a template. -/
def fromTemplate (d : Draft) : List Command :=
  (d.template.expectations.toList.flatMap fun e => boundCommands e.1 e.2)
    ++ d.template.format.toList.map .expectFormat

end Expect

/-- An expectation on the result. -/
def expect : Directive where
  name := Expect.name
  aliases := []
  places := [.template]
  description := "Constraints the result must satisfy, checked after every attempt"
  documentation := documentationUrl
  examples := [
    "EXPECT MIN 2 LINES",
    "EXPECT MAX 5 LINES",
    "EXPECT EXACTLY 1 SENTENCE",
    "expect min 10 words",
    "EXPECT JSON" ]
  produces := [.expectAmount, .expectFormat]
  parse := Expect.parse
  write := Expect.write
  onHead := none
  onTemplate := some Expect.onTemplate
  fromHead := none
  fromTemplate := some Expect.fromTemplate

end PromptPipeline.Directive
