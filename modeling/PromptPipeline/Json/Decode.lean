/-
# Json.Decode -- typed values from JSON

A decoder takes a value of its type from a `Json`, or tells the first thing in the
order of the text that is not as it must be: a fault of the text, a value of
another type, a member that is missing or there twice.  Unknown members are
skipped.

A record may also be written as a list with the members in their order.
-/
import PromptPipeline.Json.Basic
import PromptPipeline.Decimal.Shortest
import PromptPipeline.Text.Quoted

namespace PromptPipeline.Json

set_option autoImplicit false

/-! ## Errors -/

/-- Why a JSON value is no value of a type. -/
inductive Error
  | fault (fault : Fault)
  | invalidType (found expected : String)
  | invalidValue (found expected : String)
  | invalidLength (length : Nat) (expected : String)
  | unknownVariant (found : String) (known : List String)
  | missing (name : String)
  | twice (name : String)
deriving Repr, DecidableEq

/-- A name between backticks. -/
def ticked (name : String) : String := "`" ++ name ++ "`"

/-- The wording of the words that were possible. -/
def oneOf : List String → String
  | [] => "there are no variants"
  | [a] => ticked a
  | [a, b] => ticked a ++ " or " ++ ticked b
  | names => "one of " ++ Text.join ", " (names.map ticked)

/-- The wording of an error. -/
def Error.message : Error → String
  | .fault f => f.message
  | .invalidType found expected => "invalid type: " ++ found ++ ", expected " ++ expected
  | .invalidValue found expected => "invalid value: " ++ found ++ ", expected " ++ expected
  | .invalidLength length expected =>
      "invalid length " ++ toString length ++ ", expected " ++ expected
  | .unknownVariant found known =>
      "unknown variant " ++ ticked found ++ ", expected " ++ oneOf known
  | .missing name => "missing field " ++ ticked name
  | .twice name => "duplicate field " ++ ticked name

/-- The result of decoding. -/
abbrev Decoded (α : Type) := Except Error α

/-! ## Numbers in messages -/

/-- How a floating-point number is shown: digits up to 16 places, an exponent beyond,
and always a point or an exponent. -/
def floatText (negative : Bool) (d : Decimal.Scaled) : String :=
  let digits := (Nat.toDigits 10 d.digits).reverse.dropWhile (· == '0') |>.reverse
  let stripped := (Nat.toDigits 10 d.digits).length - digits.length
  let k := d.exponent + stripped
  let point := k + digits.length
  let zeros (n : Int) := List.replicate n.toNat '0'
  let body : List Char :=
    if d.digits = 0 then ['0', '.', '0']
    else if 0 ≤ k ∧ point ≤ 16 then digits ++ zeros k ++ ['.', '0']
    else if 0 < point ∧ point ≤ 16 then digits.take point.toNat ++ ['.'] ++ digits.drop point.toNat
    else if -5 < point ∧ point ≤ 0 then ['0', '.'] ++ zeros (-point) ++ digits
    else
      digits.take 1 ++ (if digits.length = 1 then [] else '.' :: digits.drop 1) ++ ['e']
        ++ (toString (point - 1)).toList
  String.ofList (if negative then '-' :: body else body)

/-- The bit of a significand that floating-point numbers leave out, the 53rd. -/
def hiddenBit : Nat := 0x10000000000000

/-- The shortest text of the floating-point number nearest to a decimal; none if it
is too large. -/
def floatText? (negative : Bool) (digits : Nat) (exponent : Int) : Option String :=
  let length : Int := (Nat.toDigits 10 digits).length
  if digits = 0 ∨ exponent + length < -400 then some (floatText negative ⟨0, 0⟩)
  else if 310 < exponent + length then none
  else
    let bits := (Float.ofScientific digits (exponent < 0) exponent.natAbs).toBits.toNat
    let fraction : Nat := bits % hiddenBit
    let biased : Nat := bits / hiddenBit % 2048
    if biased = 2047 then none
    else if bits = 0 then some (floatText negative ⟨0, 0⟩)
    else if biased = 0 then some (floatText negative (Decimal.shortest fraction (-1074) false))
    else
      some (floatText negative
        (Decimal.shortest (hiddenBit + fraction) ((biased : Int) - 1075)
          (fraction == 0 && biased != 1)))

/-- Whether a whole number is kept as one: it fits into 64 bits, with a sign or without. -/
def isWhole (n : Int) : Bool := Int64.minValue.toInt ≤ n && n < Int.ofNat UInt64.size

/-- How a number is shown, unless it is too large. -/
def numberFound : Number → Decoded String
  | .int n =>
      if isWhole n then .ok ("integer " ++ ticked (toString n))
      else
        match floatText? (n < 0) n.natAbs 0 with
        | some t => .ok ("floating point " ++ ticked t)
        | none => .error (.fault .numberOutOfRange)
  | .decimal negative digits exponent =>
      match floatText? negative digits exponent with
      | some t => .ok ("floating point " ++ ticked t)
      | none => .error (.fault .numberOutOfRange)

/-! ## Single values -/

/-- How a value is shown where another type was expected. -/
def found : Json → Decoded String
  | .null => .ok "null"
  | .bool b => .ok ("boolean " ++ ticked (if b then "true" else "false"))
  | .number n => numberFound n
  | .string s => .ok ("string " ++ Text.quoted s)
  | .list .. => .ok "sequence"
  | .object .. => .ok "map"
  | .broken f => .error (.fault f)
  | .noText f => .error (.fault f)

/-- The error of a value of the wrong type. -/
def mismatch {α : Type} (expected : String) (j : Json) : Decoded α := do
  throw (.invalidType (← found j) expected)

/-- A text. -/
def text : Json → Decoded String
  | .string s => .ok s
  | j => mismatch "a string" j

/-- A truth value. -/
def flag : Json → Decoded Bool
  | .bool b => .ok b
  | j => mismatch "a boolean" j

/-- A whole number of 32 bits. -/
def word32 : Json → Decoded UInt32
  | .number (.int n) =>
      if 0 ≤ n ∧ n.toNat < UInt32.size then .ok (UInt32.ofNat n.toNat)
      else if isWhole n then .error (.invalidValue ("integer " ++ ticked (toString n)) "u32")
      else mismatch "u32" (.number (.int n))
  | j => mismatch "u32" j

/-- A value or `null`. -/
def nullable {α : Type} (decode : Json → Decoded α) : Json → Decoded (Option α)
  | .null => .ok none
  | j => some <$> decode j

/-- A list of values. -/
def listOf {α : Type} (decode : Json → Decoded α) : Json → Decoded (List α)
  | .list items cut => do
      let values ← items.mapM decode
      match cut with
      | some f => throw (.fault f)
      | none => return values
  | j => mismatch "a sequence" j

/-! ## Words of a vocabulary -/

/-- A value of a vocabulary by its word. -/
def wordOf {α : Type} (all : List α) (word : α → String) (s : String) : Decoded α :=
  match all.find? (word · == s) with
  | some a => .ok a
  | none => .error (.unknownVariant s (all.map word))

/-- The unit that may follow a word which is written as the only member of an object. -/
def unitValue : Json → Decoded Unit
  | .null => .ok ()
  | j => mismatch "unit" j

/-- A word, or an object with the word as its only member and `null` as its value. -/
def vocabulary {α : Type} (all : List α) (word : α → String) : Json → Decoded α
  | .string s => wordOf all word s
  | .noText f => .error (.fault f)
  | .broken .endInValue => .error (.fault .endInValue)
  | .object [] none => .error (.fault .expectedValue)
  | .object [] (some f) => .error (.fault f)
  | .object ((name, value) :: rest) cut => do
      let a ← wordOf all word name
      unitValue value
      match rest, cut with
      | [], none => return a
      | [], some .endInObject => throw (.fault .endInObject)
      | _, _ => throw (.fault .expectedValue)
  | _ => .error (.fault .expectedValue)

/-- A word in a value that has been read as a whole. -/
def wholeVocabulary {α : Type} (all : List α) (word : α → String) : Json → Decoded α
  | .string s => wordOf all word s
  | .object [(name, value)] none => do
      let a ← wordOf all word name
      match value with
      | .object [] _ => return a
      | value => unitValue value; return a
  | .object .. => .error (.invalidValue "map" "map with a single key")
  | j => mismatch "string or map" j

/-! ## Skipping -/

mutual

/-- The first fault in a value that is skipped. -/
def skippedFault : Json → Option Fault
  | .list items cut =>
      (skippedItems items).or (cut.map fun f => if f = .trailingComma then .expectedValue else f)
  | .object members cut =>
      (skippedMembers members).or
        (cut.map fun f =>
          if f = .trailingComma then .keyNotString
          else if f = .endInValue then .endInObject else f)
  | .broken f => some f
  | _ => none

/-- The first fault in items that are skipped. -/
def skippedItems : List Json → Option Fault
  | [] => none
  | item :: rest => (skippedFault item).or (skippedItems rest)

/-- The first fault in members that are skipped. -/
def skippedMembers : List (String × Json) → Option Fault
  | [] => none
  | (_, value) :: rest => (skippedFault value).or (skippedMembers rest)

end

mutual

/-- The first fault in a value that is read as a whole, with room for a number of
lists and objects inside each other. -/
def wholeFault (room : Nat) : Json → Option Fault
  | .list items cut =>
      if room = 0 then some .tooDeep else (wholeItems (room - 1) items).or cut
  | .object members cut =>
      if room = 0 then some .tooDeep else (wholeMembers (room - 1) members).or cut
  | .broken f => some f
  | .noText f => some f
  | .number n =>
      match numberFound n with
      | .error (.fault f) => some f
      | _ => none
  | _ => none

/-- The first fault in items that are read as a whole. -/
def wholeItems (room : Nat) : List Json → Option Fault
  | [] => none
  | item :: rest => (wholeFault room item).or (wholeItems room rest)

/-- The first fault in members that are read as a whole. -/
def wholeMembers (room : Nat) : List (String × Json) → Option Fault
  | [] => none
  | (_, value) :: rest => (wholeFault room value).or (wholeMembers room rest)

end

/-! ## Records -/

/-- A check that a member can be decoded. -/
structure Field where
  name : String
  check : Json → Decoded Unit

/-- A field of a type. -/
def Field.of {α : Type} (name : String) (decode : Json → Decoded α) : Field :=
  ⟨name, fun j => do let _ ← decode j; return ()⟩

/-- The members of a record, checked, with the error for one that is missing. -/
structure Record where
  members : List (String × Json)
  absent : String → Error

/-- Check the members in their order. -/
def checkMembers (fields : List Field) : List String → List (String × Json) → Decoded Unit
  | _, [] => .ok ()
  | seen, (name, value) :: rest =>
      match fields.find? (·.name == name) with
      | some field =>
          if seen.contains name then .error (.twice name)
          else do
            field.check value
            checkMembers fields (name :: seen) rest
      | none =>
          match skippedFault value with
          | some f => .error (.fault f)
          | none => checkMembers fields seen rest

/-- The wording of a number of members. -/
def elements (n : Nat) : String := toString n ++ (if n = 1 then " element" else " elements")

/-- The error for a field that a list of the members is too short for. -/
def tooShort (title : String) (fields : List Field) (name : String) : Error :=
  .invalidLength ((fields.map (·.name)).idxOf name) (title ++ " with " ++ elements fields.length)

/-- A record, whose members are named or in the order of the fields. -/
def record (title : String) (fields : List Field) : Json → Decoded Record
  | .object members cut => do
      checkMembers fields [] members
      match cut with
      | some f => throw (.fault f)
      | none => return ⟨members, .missing⟩
  | .list items cut => do
      let members := (fields.map (·.name)).zip items
      checkMembers fields [] members
      if fields.length < items.length then throw (.fault .trailingCharacters)
      match cut with
      | none => return ⟨members, tooShort title fields⟩
      | some f =>
          if items.length < fields.length then throw (.fault f)
          else if f = .endInList ∨ f = .trailingComma then throw (.fault f)
          else throw (.fault .trailingCharacters)
  | j => mismatch title j

/-- The member of a name, which must be there. -/
def Record.required {α : Type} (r : Record) (name : String) (decode : Json → Decoded α) :
    Decoded α :=
  match r.members.lookup name with
  | some j => decode j
  | none => .error (r.absent name)

/-- The member of a name, or a default. -/
def Record.withDefault {α : Type} (r : Record) (name : String) (decode : Json → Decoded α)
    (fallback : α) : Decoded α :=
  match r.members.lookup name with
  | some j => decode j
  | none => .ok fallback

/-- The member of a name that may be missing or `null`. -/
def Record.optional {α : Type} (r : Record) (name : String) (decode : Json → Decoded α) :
    Decoded (Option α) :=
  r.withDefault name (nullable decode) none

end PromptPipeline.Json
