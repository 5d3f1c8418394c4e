/-
# Pipeline.Json -- pipelines as JSON

The interchange form of a compiled pipeline.  The members of an object come in the
order in which the records here list them.  An absent value is left out, and so
are the lists of a template that are empty, except its dependents; the lists of a
pipeline are always there.
-/
import PromptPipeline.Pipeline.Basic
import PromptPipeline.Command.Json
import PromptPipeline.Json.Printer

namespace PromptPipeline

set_option autoImplicit false

open Json (Decoded Field optionalMember)

namespace Json

/-- A list of texts. -/
def texts (l : List String) : Json := .list (l.map .string)

/-- A list that is left out when it is empty. -/
def textsMember (name : String) (l : List String) : List (String × Json) :=
  if l.isEmpty then [] else [(name, texts l)]

/-- A list of numbers. -/
def words32 (l : List UInt32) : Json := .list (l.map fun n => .nat n.toNat)

end Json

/-! ## Requirements, parameters, personas and sources -/

namespace ModelRequirements

/-- Requirements as JSON. -/
def toJson (r : ModelRequirements) : Json :=
  .object (optionalMember "modelVariant" (fun v => .string v.word) r.variant
    ++ optionalMember "modelName" .string r.name)

/-- A variant by its word. -/
def variantOf : Json → Decoded ModelVariant := Json.vocabulary ModelVariant.all ModelVariant.word

/-- Requirements from JSON. -/
def ofJson (j : Json) : Decoded ModelRequirements := do
  let r ← Json.record "struct ModelRequirements"
    [.of "modelVariant" (Json.nullable variantOf), .of "modelName" (Json.nullable Json.text)] j
  return {
    variant := ← r.optional "modelVariant" variantOf
    name := ← r.optional "modelName" Json.text }

end ModelRequirements

namespace Parameter

/-- A parameter as JSON. -/
def toJson (p : Parameter) : Json :=
  .object ([("name", .string p.name)] ++ optionalMember "description" .string p.description
    ++ [("isInput", .bool p.isInput), ("isOutput", .bool p.isOutput)])

/-- A parameter from JSON. -/
def ofJson (j : Json) : Decoded Parameter := do
  let r ← Json.record "struct ParameterJson"
    [.of "name" Json.text, .of "description" (Json.nullable Json.text), .of "isInput" Json.flag,
      .of "isOutput" Json.flag] j
  return {
    name := ← r.required "name" Json.text
    description := ← r.optional "description" Json.text
    isInput := ← r.withDefault "isInput" Json.flag false
    isOutput := ← r.withDefault "isOutput" Json.flag false }

end Parameter

namespace Persona

/-- A persona as JSON. -/
def toJson (p : Persona) : Json :=
  .object ([("name", .string p.name), ("description", .string p.description)]
    ++ optionalMember "modelRequirements" ModelRequirements.toJson p.requirements
    ++ optionalMember "preparationIds" Json.words32 p.preparationIds)

/-- A persona from JSON. -/
def ofJson (j : Json) : Decoded Persona := do
  let r ← Json.record "struct PersonaJson"
    [.of "name" Json.text, .of "description" Json.text,
      .of "modelRequirements" (Json.nullable ModelRequirements.ofJson),
      .of "preparationIds" (Json.nullable (Json.listOf Json.word32))] j
  return {
    name := ← r.required "name" Json.text
    description := ← r.withDefault "description" Json.text ""
    requirements := ← r.optional "modelRequirements" ModelRequirements.ofJson
    preparationIds := ← r.optional "preparationIds" (Json.listOf Json.word32) }

end Persona

namespace KnowledgeSource

/-- A source as JSON. -/
def toJson (s : KnowledgeSource) : Json :=
  .object ([("name", .string s.name), ("sourceContent", .string s.content)]
    ++ optionalMember "preparationIds" Json.words32 s.preparationIds)

/-- A source from JSON. -/
def ofJson (j : Json) : Decoded KnowledgeSource := do
  let r ← Json.record "struct KnowledgeSourceJson"
    [.of "name" Json.text, .of "sourceContent" Json.text,
      .of "preparationIds" (Json.nullable (Json.listOf Json.word32))] j
  return {
    name := ← r.required "name" Json.text
    content := ← r.required "sourceContent" Json.text
    preparationIds := ← r.optional "preparationIds" (Json.listOf Json.word32) }

end KnowledgeSource

/-! ## Expectations -/

namespace Bounds

/-- Bounds as JSON. -/
def toJson (b : Bounds) : Json :=
  .object (optionalMember "min" (fun n => .nat n.toNat) b.min
    ++ optionalMember "max" (fun n => .nat n.toNat) b.max)

/-- Bounds from JSON. -/
def ofJson (j : Json) : Decoded Bounds := do
  let r ← Json.record "struct ExpectationRange"
    [.of "min" (Json.nullable Json.word32), .of "max" (Json.nullable Json.word32)] j
  return {
    min := ← r.optional "min" Json.word32
    max := ← r.optional "max" Json.word32 }

end Bounds

namespace Expectations

/-- Expectations as an object with a member for each bounded unit. -/
def toJson (e : Expectations) : Json :=
  .object (e.toList.map fun (unit, bounds) => (unit.jsonWord, bounds.toJson))

/-- One more member of the object; the last of a unit wins. -/
def addMember (e : Expectations) (member : String × Json) : Decoded Expectations := do
  let unit ← Json.wordOf AmountUnit.all AmountUnit.jsonWord member.1
  let bounds ← Bounds.ofJson member.2
  return e.set unit bounds

/-- Expectations from JSON. -/
def ofJson : Json → Decoded Expectations
  | .object members cut => do
      let e ← members.foldlM addMember {}
      Command.uncut cut
      return e
  | j => Json.mismatch "a map" j

end Expectations

/-! ## Templates and pipelines -/

namespace Template

/-- A template as JSON. -/
def toJson (t : Template) : Json :=
  .object ([("name", .string t.name), ("title", .string t.title)]
    ++ optionalMember "description" .string t.description
    ++ [("executionType", .string t.execution.word)]
    ++ optionalMember "modelRequirements" ModelRequirements.toJson t.requirements
    ++ optionalMember "personaName" .string t.persona
    ++ Json.textsMember "knowledgeSourceNames" t.knowledge
    ++ Json.textsMember "jokerParameterNames" t.jokers
    ++ Json.textsMember "postprocessingFunctionNames" t.postprocessing
    ++ (if t.expectations.isEmpty then [] else [("expectations", t.expectations.toJson)])
    ++ optionalMember "expectFormat" (fun f => .string f.word) t.format
    ++ optionalMember "contentLanguage" .string t.language
    ++ [("content", .string t.content)]
    ++ optionalMember "preparedContent" .string t.prepared
    ++ [("dependentParameterNames", Json.texts t.dependents.toList),
      ("resultingParameterName", .string t.result)])

/-- An execution by its word. -/
def executionOf : Json → Decoded Execution := Json.vocabulary Execution.all Execution.word

/-- A format by its word. -/
def formatOf : Json → Decoded ResultFormat := Json.vocabulary ResultFormat.all ResultFormat.word

/-- Names in any order. -/
def namesOf (j : Json) : Decoded NameSet := NameSet.ofList <$> Json.listOf Json.text j

/-- The fields of a template. -/
def fields : List Field :=
  [.of "name" Json.text, .of "title" Json.text, .of "description" (Json.nullable Json.text),
    .of "executionType" executionOf,
    .of "modelRequirements" (Json.nullable ModelRequirements.ofJson),
    .of "personaName" (Json.nullable Json.text),
    .of "knowledgeSourceNames" (Json.listOf Json.text),
    .of "jokerParameterNames" (Json.listOf Json.text),
    .of "postprocessingFunctionNames" (Json.listOf Json.text),
    .of "expectations" Expectations.ofJson, .of "expectFormat" (Json.nullable formatOf),
    .of "contentLanguage" (Json.nullable Json.text), .of "content" Json.text,
    .of "preparedContent" (Json.nullable Json.text), .of "dependentParameterNames" namesOf,
    .of "resultingParameterName" Json.text]

/-- A template from JSON. -/
def ofJson (j : Json) : Decoded Template := do
  let r ← Json.record "struct PromptTemplateJson" fields j
  return {
    name := ← r.required "name" Json.text
    title := ← r.required "title" Json.text
    description := ← r.optional "description" Json.text
    execution := ← r.withDefault "executionType" executionOf .promptTemplate
    requirements := ← r.optional "modelRequirements" ModelRequirements.ofJson
    persona := ← r.optional "personaName" Json.text
    knowledge := ← r.withDefault "knowledgeSourceNames" (Json.listOf Json.text) []
    jokers := ← r.withDefault "jokerParameterNames" (Json.listOf Json.text) []
    postprocessing := ← r.withDefault "postprocessingFunctionNames" (Json.listOf Json.text) []
    expectations := ← r.withDefault "expectations" Expectations.ofJson {}
    format := ← r.optional "expectFormat" formatOf
    language := ← r.optional "contentLanguage" Json.text
    content := ← r.required "content" Json.text
    prepared := ← r.optional "preparedContent" Json.text
    dependents := ← r.withDefault "dependentParameterNames" namesOf ∅
    result := ← r.required "resultingParameterName" Json.text }

end Template

namespace Pipeline

/-- **A pipeline as JSON.** -/
def toJson (p : Pipeline) : Json :=
  .object (optionalMember "pipelineUrl" .string p.url
    ++ [("title", .string p.title)]
    ++ optionalMember "promptbookVersion" .string p.version
    ++ optionalMember "description" .string p.description
    ++ [("parameters", .list (p.parameters.map Parameter.toJson)),
      ("promptTemplates", .list (p.templates.map Template.toJson)),
      ("knowledgeSources", .list (p.knowledge.map KnowledgeSource.toJson)),
      ("personas", .list (p.personas.map Persona.toJson))]
    ++ optionalMember "defaultModelRequirements" ModelRequirements.toJson p.defaults)

/-- The fields of a pipeline. -/
def fields : List Field :=
  [.of "pipelineUrl" (Json.nullable Json.text), .of "title" Json.text,
    .of "promptbookVersion" (Json.nullable Json.text),
    .of "description" (Json.nullable Json.text),
    .of "parameters" (Json.listOf Parameter.ofJson),
    .of "promptTemplates" (Json.listOf Template.ofJson),
    .of "knowledgeSources" (Json.listOf KnowledgeSource.ofJson),
    .of "personas" (Json.listOf Persona.ofJson),
    .of "defaultModelRequirements" (Json.nullable ModelRequirements.ofJson)]

/-- **The pipeline that a JSON value stands for.** -/
def ofJson (j : Json) : Decoded Pipeline := do
  let r ← Json.record "struct PipelineJson" fields j
  return {
    url := ← r.optional "pipelineUrl" Json.text
    title := ← r.required "title" Json.text
    version := ← r.optional "promptbookVersion" Json.text
    description := ← r.optional "description" Json.text
    parameters := ← r.withDefault "parameters" (Json.listOf Parameter.ofJson) []
    templates := ← r.withDefault "promptTemplates" (Json.listOf Template.ofJson) []
    knowledge := ← r.withDefault "knowledgeSources" (Json.listOf KnowledgeSource.ofJson) []
    personas := ← r.withDefault "personas" (Json.listOf Persona.ofJson) []
    defaults := ← r.optional "defaultModelRequirements" ModelRequirements.ofJson }

/-- The text of a pipeline, over several lines. -/
def toJsonText (p : Pipeline) : String := Json.pretty p.toJson

/-- The pipeline that a text stands for. -/
def ofJsonText (text : String) : Decoded Pipeline := do
  let (value, trailing) := Json.ofText text
  let p ← ofJson value
  Command.uncut trailing
  return p

end Pipeline

end PromptPipeline
