/-
# Command.Json -- commands as JSON

A command is an object whose member `type` has the word of its kind, with the
arguments beside it; a description that is absent is left out.  In place of the
object there may be a list that starts with the word.

The kind decides how the other members are read, so they are held back until the
whole value has been gone through.
-/
import PromptPipeline.Command.Basic
import PromptPipeline.Json.Decode
import PromptPipeline.Json.Reader

namespace PromptPipeline

set_option autoImplicit false

open Json (Decoded Field Record)

/-! ## Words -/

/-- The word of a key in JSON. -/
def ModelKey.jsonWord : ModelKey → String
  | .variant => "modelVariant"
  | .name => "modelName"

/-- The word of a unit in JSON. -/
def AmountUnit.jsonWord : AmountUnit → String
  | .characters => "characters"
  | .words => "words"
  | .sentences => "sentences"
  | .lines => "lines"
  | .paragraphs => "paragraphs"
  | .pages => "pages"

/-- The word of a sign in JSON. -/
def BoundSign.jsonWord : BoundSign → String
  | .minimum => "MINIMUM"
  | .maximum => "MAXIMUM"
  | .exactly => "EXACTLY"

/-- The formats that a result can have. -/
def ResultFormat.all : List ResultFormat := [.json]

namespace Json

/-- A member that is left out when there is no value. -/
def optionalMember {α : Type} (name : String) (encode : α → Json) :
    Option α → List (String × Json)
  | none => []
  | some a => [(name, encode a)]

/-- A record in a value that has been gone through as a whole. -/
def wholeRecord (title : String) (fields : List Field) : Json → Decoded Record
  | .list items _ => do
      let members := (fields.map (·.name)).zip items
      checkMembers fields [] members
      if items.length ≤ fields.length then return ⟨members, tooShort title fields⟩
      else throw (.invalidLength items.length (elements fields.length ++ " in sequence"))
  | j => record title fields j

end Json

namespace Command

/-! ## Writing -/

/-- The members of a command beside its type. -/
def arguments : Command → List (String × Json)
  | .url s => [("pipelineUrl", .string s)]
  | .version s => [("promptbookVersion", .string s)]
  | .parameter name description isInput isOutput =>
      [("parameterName", .string name)]
        ++ Json.optionalMember "parameterDescription" .string description
        ++ [("isInput", .bool isInput), ("isOutput", .bool isOutput)]
  | .execute kind => [("executionType", .string kind.word)]
  | .model key value => [("key", .string key.jsonWord), ("value", .string value)]
  | .persona name description =>
      [("personaName", .string name)]
        ++ Json.optionalMember "personaDescription" .string description
  | .knowledge source => [("sourceContent", .string source)]
  | .expectAmount sign unit amount =>
      [("sign", .string sign.jsonWord), ("unit", .string unit.jsonWord),
        ("amount", .nat amount.toNat)]
  | .expectFormat format => [("format", .string format.word)]
  | .postprocess function => [("functionName", .string function)]
  | .joker name => [("parameterName", .string name)]
  | .iterate format part name =>
      [("formatName", .string format.word), ("cellName", .string part.word),
        ("parameterName", .string name)]

/-- **A command as JSON.** -/
def toJson (c : Command) : Json := .object (("type", .string c.kind.word) :: c.arguments)

/-! ## Reading -/

/-- The title of the members of a kind, as messages name it. -/
def Kind.title : Kind → String
  | .url => "struct variant Command::PromptbookUrl"
  | .version => "struct variant Command::PromptbookVersion"
  | .parameter => "struct variant Command::Parameter"
  | .execute => "struct variant Command::Execute"
  | .model => "struct variant Command::Model"
  | .persona => "struct variant Command::Persona"
  | .knowledge => "struct variant Command::Knowledge"
  | .expectAmount => "struct variant Command::ExpectAmount"
  | .expectFormat => "struct variant Command::ExpectFormat"
  | .postprocess => "struct variant Command::Postprocess"
  | .joker => "struct variant Command::Joker"
  | .iterate => "struct variant Command::Foreach"

/-- A word of a vocabulary inside a command. -/
def wordIn {α : Type} (all : List α) (word : α → String) : Json → Decoded α :=
  Json.wholeVocabulary all word

/-- The fields of a kind. -/
def Kind.fields : Kind → List Field
  | .url => [.of "pipelineUrl" Json.text]
  | .version => [.of "promptbookVersion" Json.text]
  | .parameter =>
      [.of "parameterName" Json.text, .of "parameterDescription" (Json.nullable Json.text),
        .of "isInput" Json.flag, .of "isOutput" Json.flag]
  | .execute => [.of "executionType" (wordIn Execution.all Execution.word)]
  | .model => [.of "key" (wordIn ModelKey.all ModelKey.jsonWord), .of "value" Json.text]
  | .persona =>
      [.of "personaName" Json.text, .of "personaDescription" (Json.nullable Json.text)]
  | .knowledge => [.of "sourceContent" Json.text]
  | .expectAmount =>
      [.of "sign" (wordIn BoundSign.all BoundSign.jsonWord),
        .of "unit" (wordIn AmountUnit.all AmountUnit.jsonWord), .of "amount" Json.word32]
  | .expectFormat => [.of "format" (wordIn ResultFormat.all ResultFormat.word)]
  | .postprocess => [.of "functionName" Json.text]
  | .joker => [.of "parameterName" Json.text]
  | .iterate =>
      [.of "formatName" (wordIn IterationFormat.all IterationFormat.word),
        .of "cellName" (wordIn IterationCell.all IterationCell.word),
        .of "parameterName" Json.text]

/-- A command of a kind from its members. -/
def ofRecord (r : Record) : Kind → Decoded Command
  | .url => return .url (← r.required "pipelineUrl" Json.text)
  | .version => return .version (← r.required "promptbookVersion" Json.text)
  | .parameter =>
      return .parameter (← r.required "parameterName" Json.text)
        (← r.optional "parameterDescription" Json.text) (← r.required "isInput" Json.flag)
        (← r.required "isOutput" Json.flag)
  | .execute => return .execute (← r.required "executionType" (wordIn Execution.all Execution.word))
  | .model =>
      return .model (← r.required "key" (wordIn ModelKey.all ModelKey.jsonWord))
        (← r.required "value" Json.text)
  | .persona =>
      return .persona (← r.required "personaName" Json.text)
        (← r.optional "personaDescription" Json.text)
  | .knowledge => return .knowledge (← r.required "sourceContent" Json.text)
  | .expectAmount =>
      return .expectAmount (← r.required "sign" (wordIn BoundSign.all BoundSign.jsonWord))
        (← r.required "unit" (wordIn AmountUnit.all AmountUnit.jsonWord))
        (← r.required "amount" Json.word32)
  | .expectFormat =>
      return .expectFormat (← r.required "format" (wordIn ResultFormat.all ResultFormat.word))
  | .postprocess => return .postprocess (← r.required "functionName" Json.text)
  | .joker => return .joker (← r.required "parameterName" Json.text)
  | .iterate =>
      return .iterate (← r.required "formatName" (wordIn IterationFormat.all IterationFormat.word))
        (← r.required "cellName" (wordIn IterationCell.all IterationCell.word))
        (← r.required "parameterName" Json.text)

/-- The kind that a value of `type` names. -/
def kindOf : Json → Decoded Kind
  | .string s => Json.wordOf Kind.all Kind.word s
  | j => Json.mismatch "variant identifier" j

/-- How many lists and objects may stand inside each other in a member. -/
def depthLimit : Nat := 126

/-- The kind among the members of an object, and the other members. -/
def splitType : Option Kind → List (String × Json) → Decoded (Option Kind × List (String × Json))
  | tag, [] => .ok (tag, [])
  | tag, (name, value) :: rest =>
      if name = "type" then
        match tag with
        | some _ => .error (.twice "type")
        | none => do splitType (some (← kindOf value)) rest
      else
        match Json.wholeFault depthLimit value with
        | some f => .error (.fault f)
        | none => do
            let (tag, others) ← splitType tag rest
            return (tag, (name, value) :: others)

/-- Nothing, unless the text is cut off. -/
def uncut : Option Json.Fault → Decoded Unit
  | none => .ok ()
  | some f => .error (.fault f)

/-- **The command that a JSON value stands for.** -/
def ofJson : Json → Decoded Command
  | .object members cut => do
      let (tag, others) ← splitType none members
      uncut cut
      match tag with
      | none => throw (.missing "type")
      | some kind => ofRecord (← Json.wholeRecord kind.title kind.fields (.object others)) kind
  | .list [] cut => do
      uncut cut
      throw (.missing "type")
  | .list (first :: rest) cut => do
      let kind ← kindOf first
      match (Json.wholeItems depthLimit rest).or cut with
      | some f => throw (.fault f)
      | none => ofRecord (← Json.wholeRecord kind.title kind.fields (.list rest)) kind
  | j => Json.mismatch "internally tagged enum Command" j

/-- The command that a text stands for. -/
def ofJsonText (text : String) : Decoded Command := do
  let (value, trailing) := Json.ofText text
  let c ← ofJson value
  uncut trailing
  return c

end Command

end PromptPipeline
