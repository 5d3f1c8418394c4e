/-
# Proofs.Json.Pipeline -- pipelines are taken back from JSON

Each record of a pipeline is written as its slots (`toJson_eq`), which are those of the fields
that its decoder reads (`isRecord`), so the decoder takes it back (`inverse`).  Nothing is lost
where a member is left out: an empty list, no expectations and an absent value are what their
absence says, and an empty record is written all the same.

So the text of a pipeline or a command is read back as this pipeline or command
(`json_round_trip`).
-/
import PromptPipeline.Proofs.Edit.Replay
import PromptPipeline.Proofs.Json.Command
import PromptPipeline.Proofs.Name.Set

namespace PromptPipeline

set_option autoImplicit false

open Json (Decoded Inverse IsRecord Slots inverse_text inverse_flag inverse_word32)

/-! ## Lists that are left out -/

namespace Json

theorem inverse_texts : Inverse texts (listOf text) := inverse_text.listOf

theorem inverse_words32 : Inverse words32 (listOf word32) := inverse_word32.listOf

/-- A list, unless it is empty. -/
def filled? {α : Type} (l : List α) : Option (List α) := if l.isEmpty then none else some l

theorem filled?_getD {α : Type} (l : List α) : (filled? l).getD [] = l := by
  cases l with
  | nil => rfl
  | cons a l => rfl

theorem textsMember_eq (name : String) (l : List String) :
    textsMember name l = (((filled? l).map texts).map (name, ·)).toList := by
  cases l with
  | nil => rfl
  | cons a l => rfl

end Json

/-! ## Requirements, parameters, personas and sources -/

namespace ModelRequirements

/-- The members of requirements. -/
def slots (r : ModelRequirements) : Slots :=
  [("modelVariant", r.variant.map fun v => .string v.word), ("modelName", r.name.map .string)]

theorem toJson_eq (r : ModelRequirements) : r.toJson = .object (Json.present r.slots) := by
  simp [toJson, slots, Json.present_cons, Json.optionalMember_eq, Json.present_nil]

theorem inverse_variant : Inverse (fun v : ModelVariant => .string v.word) variantOf :=
  Json.inverse_vocabulary fun v => by cases v <;> decide

theorem isRecord (r : ModelRequirements) :
    IsRecord [.of "modelVariant" (Json.nullable variantOf),
      .of "modelName" (Json.nullable Json.text)] r.slots where
  distinct := by decide
  fits := .cons (inverse_variant.fits_nullable _ _) (.cons (inverse_text.fits_nullable _ _) .nil)

/-- Requirements are taken back. -/
theorem inverse : Inverse toJson ofJson := by
  refine .ofRecord toJson_eq isRecord fun r => ?_
  have written := r.isRecord
  refine Except.bind_ok_iff.2 ⟨_, written.record _, ?_⟩
  refine Except.bind_ok_iff.2 ⟨r.variant, written.optional inverse_variant (by simp [slots]), ?_⟩
  refine Except.bind_ok_iff.2 ⟨r.name, written.optional inverse_text (by simp [slots]), ?_⟩
  rfl

end ModelRequirements

namespace Parameter

/-- The members of a parameter. -/
def slots (p : Parameter) : Slots :=
  [("name", some (.string p.name)), ("description", p.description.map .string),
    ("isInput", some (.bool p.isInput)), ("isOutput", some (.bool p.isOutput))]

theorem toJson_eq (p : Parameter) : p.toJson = .object (Json.present p.slots) := by
  simp [toJson, slots, Json.present_cons, Json.optionalMember_eq, Json.present_nil]

theorem isRecord (p : Parameter) :
    IsRecord [.of "name" Json.text, .of "description" (Json.nullable Json.text),
      .of "isInput" Json.flag, .of "isOutput" Json.flag] p.slots where
  distinct := by decide
  fits := .cons (inverse_text.fits _ (some p.name)) (.cons (inverse_text.fits_nullable _ _)
    (.cons (inverse_flag.fits _ (some p.isInput)) (.cons (inverse_flag.fits _ (some p.isOutput))
      .nil)))

/-- A parameter is taken back. -/
theorem inverse : Inverse toJson ofJson := by
  refine .ofRecord toJson_eq isRecord fun p => ?_
  have written := p.isRecord
  refine Except.bind_ok_iff.2 ⟨_, written.record _, ?_⟩
  refine Except.bind_ok_iff.2 ⟨p.name, written.required inverse_text (by simp [slots]), ?_⟩
  refine Except.bind_ok_iff.2
    ⟨p.description, written.optional inverse_text (by simp [slots]), ?_⟩
  refine Except.bind_ok_iff.2
    ⟨p.isInput, written.withDefault_some inverse_flag (by simp [slots]) _, ?_⟩
  refine Except.bind_ok_iff.2
    ⟨p.isOutput, written.withDefault_some inverse_flag (by simp [slots]) _, ?_⟩
  rfl

end Parameter

namespace Persona

/-- The members of a persona. -/
def slots (p : Persona) : Slots :=
  [("name", some (.string p.name)), ("description", some (.string p.description)),
    ("modelRequirements", p.requirements.map ModelRequirements.toJson),
    ("preparationIds", p.preparationIds.map Json.words32)]

theorem toJson_eq (p : Persona) : p.toJson = .object (Json.present p.slots) := by
  simp [toJson, slots, Json.present_cons, Json.optionalMember_eq, Json.present_nil]

theorem isRecord (p : Persona) :
    IsRecord [.of "name" Json.text, .of "description" Json.text,
      .of "modelRequirements" (Json.nullable ModelRequirements.ofJson),
      .of "preparationIds" (Json.nullable (Json.listOf Json.word32))] p.slots where
  distinct := by decide
  fits := .cons (inverse_text.fits _ (some p.name))
    (.cons (inverse_text.fits _ (some p.description))
    (.cons (ModelRequirements.inverse.fits_nullable _ _)
    (.cons (Json.inverse_words32.fits_nullable _ _) .nil)))

/-- A persona is taken back. -/
theorem inverse : Inverse toJson ofJson := by
  refine .ofRecord toJson_eq isRecord fun p => ?_
  have written := p.isRecord
  refine Except.bind_ok_iff.2 ⟨_, written.record _, ?_⟩
  refine Except.bind_ok_iff.2 ⟨p.name, written.required inverse_text (by simp [slots]), ?_⟩
  refine Except.bind_ok_iff.2
    ⟨p.description, written.withDefault_some inverse_text (by simp [slots]) _, ?_⟩
  refine Except.bind_ok_iff.2
    ⟨p.requirements, written.optional ModelRequirements.inverse (by simp [slots]), ?_⟩
  refine Except.bind_ok_iff.2
    ⟨p.preparationIds, written.optional Json.inverse_words32 (by simp [slots]), ?_⟩
  rfl

end Persona

namespace KnowledgeSource

/-- The members of a source. -/
def slots (s : KnowledgeSource) : Slots :=
  [("name", some (.string s.name)), ("sourceContent", some (.string s.content)),
    ("preparationIds", s.preparationIds.map Json.words32)]

theorem toJson_eq (s : KnowledgeSource) : s.toJson = .object (Json.present s.slots) := by
  simp [toJson, slots, Json.present_cons, Json.optionalMember_eq, Json.present_nil]

theorem isRecord (s : KnowledgeSource) :
    IsRecord [.of "name" Json.text, .of "sourceContent" Json.text,
      .of "preparationIds" (Json.nullable (Json.listOf Json.word32))] s.slots where
  distinct := by decide
  fits := .cons (inverse_text.fits _ (some s.name)) (.cons (inverse_text.fits _ (some s.content))
    (.cons (Json.inverse_words32.fits_nullable _ _) .nil))

/-- A source is taken back. -/
theorem inverse : Inverse toJson ofJson := by
  refine .ofRecord toJson_eq isRecord fun s => ?_
  have written := s.isRecord
  refine Except.bind_ok_iff.2 ⟨_, written.record _, ?_⟩
  refine Except.bind_ok_iff.2 ⟨s.name, written.required inverse_text (by simp [slots]), ?_⟩
  refine Except.bind_ok_iff.2 ⟨s.content, written.required inverse_text (by simp [slots]), ?_⟩
  refine Except.bind_ok_iff.2
    ⟨s.preparationIds, written.optional Json.inverse_words32 (by simp [slots]), ?_⟩
  rfl

end KnowledgeSource

/-! ## Expectations -/

namespace Bounds

/-- The members of bounds. -/
def slots (b : Bounds) : Slots :=
  [("min", b.min.map fun n => .nat n.toNat), ("max", b.max.map fun n => .nat n.toNat)]

theorem toJson_eq (b : Bounds) : b.toJson = .object (Json.present b.slots) := by
  simp [toJson, slots, Json.present_cons, Json.optionalMember_eq, Json.present_nil]

theorem isRecord (b : Bounds) :
    IsRecord [.of "min" (Json.nullable Json.word32), .of "max" (Json.nullable Json.word32)]
      b.slots where
  distinct := by decide
  fits := .cons (inverse_word32.fits_nullable _ _) (.cons (inverse_word32.fits_nullable _ _) .nil)

/-- Bounds are taken back, also none at all. -/
theorem inverse : Inverse toJson ofJson := by
  refine .ofRecord toJson_eq isRecord fun b => ?_
  have written := b.isRecord
  refine Except.bind_ok_iff.2 ⟨_, written.record _, ?_⟩
  refine Except.bind_ok_iff.2 ⟨b.min, written.optional inverse_word32 (by simp [slots]), ?_⟩
  refine Except.bind_ok_iff.2 ⟨b.max, written.optional inverse_word32 (by simp [slots]), ?_⟩
  rfl

end Bounds

namespace Expectations

/-- A member of the expectations of a unit sets its bounds. -/
theorem addMember_toJson (e : Expectations) (unit : AmountUnit) (bounds : Bounds) :
    e.addMember (unit.jsonWord, bounds.toJson) = .ok (e.set unit bounds) := by
  have told : AmountUnit.all.find? (·.jsonWord == unit.jsonWord) = some unit := by
    cases unit <;> decide
  refine Except.bind_ok_iff.2 ⟨unit, Json.wordOf_word told, ?_⟩
  refine Except.bind_ok_iff.2 ⟨bounds, Bounds.inverse.decodes bounds, ?_⟩
  rfl

/-- The members of the expectations on some units set their bounds, and no others. -/
theorem exists_foldlM_addMember (e : Expectations) (units : List AmountUnit) :
    ∀ before : Expectations, ∃ after,
      ((units.filterMap fun unit => (e.get unit).map (unit, ·)).map
          fun x => (x.1.jsonWord, x.2.toJson)).foldlM addMember before = .ok after
        ∧ ∀ unit, after.get unit
          = if unit ∈ units then (e.get unit).or (before.get unit) else before.get unit := by
  induction units with
  | nil => exact fun before => ⟨before, rfl, fun unit => by simp⟩
  | cons first units ih =>
      intro before
      cases found : e.get first with
      | none =>
          obtain ⟨after, run, gets⟩ := ih before
          refine ⟨after, by simpa [found] using run, fun unit => ?_⟩
          rw [gets]
          by_cases same : unit = first
          · subst same
            simp [found]
          · simp [same]
      | some bounds =>
          obtain ⟨after, run, gets⟩ := ih (before.set first bounds)
          refine ⟨after, ?_, fun unit => ?_⟩
          · simp only [List.filterMap_cons, found, Option.map_some, List.map_cons, List.foldlM_cons]
            exact Except.bind_ok_iff.2 ⟨_, addMember_toJson before first bounds, run⟩
          · rw [gets, get_set]
            by_cases same : unit = first
            · subst same
              simp [found]
            · simp [same]

/-- Expectations are taken back. -/
theorem inverse : Inverse toJson ofJson where
  decodes e := by
    obtain ⟨after, run, gets⟩ := exists_foldlM_addMember e AmountUnit.all {}
    obtain rfl : after = e := by
      refine ext_get fun unit => ?_
      rw [gets, if_pos (by cases unit <;> decide)]
      cases unit <;> exact Option.or_none
    refine Except.bind_ok_iff.2 ⟨after, run, ?_⟩
    rfl
  notNull _ := Json.noConfusion
  faultless e := by
    refine .object fun m inside => ?_
    obtain ⟨x, -, rfl⟩ := List.mem_map.1 inside
    exact Bounds.inverse.faultless x.2

/-- Expectations, unless no unit is bounded. -/
def filled? (e : Expectations) : Option Expectations := if e.isEmpty then none else some e

theorem filled?_getD (e : Expectations) : e.filled?.getD {} = e := by
  unfold filled?
  split
  · rename_i isEmpty
    refine ext_get fun unit => ?_
    have every : unit ∈ AmountUnit.all := by cases unit <;> decide
    have none := List.filterMap_eq_nil_iff.1 (List.isEmpty_iff.1 isEmpty) unit every
    rw [Option.map_eq_none_iff.1 none]
    cases unit <;> rfl
  · rfl

end Expectations

/-! ## Templates -/

namespace Template

theorem inverse_execution : Inverse (fun e : Execution => .string e.word) executionOf :=
  Json.inverse_vocabulary fun e => by cases e <;> decide

theorem inverse_format : Inverse (fun f : ResultFormat => .string f.word) formatOf :=
  Json.inverse_vocabulary fun f => by cases f; decide

theorem inverse_names : Inverse (fun s : NameSet => Json.texts s.toList) namesOf where
  decodes s := by
    rw [namesOf, Json.inverse_texts.decodes]
    exact congrArg Except.ok s.ofList_toList
  notNull _ := Json.noConfusion
  faultless s := Json.inverse_texts.faultless s.toList

/-- The members of a template. -/
def slots (t : Template) : Slots :=
  [("name", some (.string t.name)), ("title", some (.string t.title)),
    ("description", t.description.map .string),
    ("executionType", some (.string t.execution.word)),
    ("modelRequirements", t.requirements.map ModelRequirements.toJson),
    ("personaName", t.persona.map .string),
    ("knowledgeSourceNames", (Json.filled? t.knowledge).map Json.texts),
    ("jokerParameterNames", (Json.filled? t.jokers).map Json.texts),
    ("postprocessingFunctionNames", (Json.filled? t.postprocessing).map Json.texts),
    ("expectations", t.expectations.filled?.map Expectations.toJson),
    ("expectFormat", t.format.map fun f => .string f.word),
    ("contentLanguage", t.language.map .string), ("content", some (.string t.content)),
    ("preparedContent", t.prepared.map .string),
    ("dependentParameterNames", some (Json.texts t.dependents.toList)),
    ("resultingParameterName", some (.string t.result))]

theorem toJson_eq (t : Template) : t.toJson = .object (Json.present t.slots) := by
  have bounded : (if t.expectations.isEmpty then [] else [("expectations", t.expectations.toJson)])
      = ((t.expectations.filled?.map Expectations.toJson).map ("expectations", ·)).toList := by
    unfold Expectations.filled?
    split <;> rfl
  simp [toJson, slots, bounded, Json.present_cons, Json.optionalMember_eq, Json.textsMember_eq,
    Json.present_nil]

theorem isRecord (t : Template) : IsRecord fields t.slots where
  distinct := by decide
  fits :=
    .cons (inverse_text.fits _ (some t.name)) <|
    .cons (inverse_text.fits _ (some t.title)) <|
    .cons (inverse_text.fits_nullable _ _) <|
    .cons (inverse_execution.fits _ (some t.execution)) <|
    .cons (ModelRequirements.inverse.fits_nullable _ _) <|
    .cons (inverse_text.fits_nullable _ _) <|
    .cons (Json.inverse_texts.fits _ _) <|
    .cons (Json.inverse_texts.fits _ _) <|
    .cons (Json.inverse_texts.fits _ _) <|
    .cons (Expectations.inverse.fits _ _) <|
    .cons (inverse_format.fits_nullable _ _) <|
    .cons (inverse_text.fits_nullable _ _) <|
    .cons (inverse_text.fits _ (some t.content)) <|
    .cons (inverse_text.fits_nullable _ _) <|
    .cons (inverse_names.fits _ (some t.dependents)) <|
    .cons (inverse_text.fits _ (some t.result)) .nil

/-- A list that is left out when it is empty is taken back. -/
theorem list_slot (t : Template) {name : String} {l : List String}
    (member : (name, (Json.filled? l).map Json.texts) ∈ t.slots) :
    (⟨Json.present t.slots, .missing⟩ : Json.Record).withDefault name (Json.listOf Json.text) []
      = .ok l := by
  rw [t.isRecord.withDefault Json.inverse_texts member, Json.filled?_getD]

theorem expectations_slot (t : Template) :
    (⟨Json.present t.slots, .missing⟩ : Json.Record).withDefault "expectations"
      Expectations.ofJson {} = .ok t.expectations := by
  have member : ("expectations", t.expectations.filled?.map Expectations.toJson) ∈ t.slots := by
    simp [slots]
  rw [t.isRecord.withDefault Expectations.inverse member, Expectations.filled?_getD]

/-- A template is taken back. -/
theorem inverse : Inverse toJson ofJson := by
  refine .ofRecord toJson_eq isRecord fun t => ?_
  have written := t.isRecord
  refine Except.bind_ok_iff.2 ⟨_, written.record _, ?_⟩
  refine Except.bind_ok_iff.2 ⟨t.name, written.required inverse_text (by simp [slots]), ?_⟩
  refine Except.bind_ok_iff.2 ⟨t.title, written.required inverse_text (by simp [slots]), ?_⟩
  refine Except.bind_ok_iff.2
    ⟨t.description, written.optional inverse_text (by simp [slots]), ?_⟩
  refine Except.bind_ok_iff.2
    ⟨t.execution, written.withDefault_some inverse_execution (by simp [slots]) _, ?_⟩
  refine Except.bind_ok_iff.2
    ⟨t.requirements, written.optional ModelRequirements.inverse (by simp [slots]), ?_⟩
  refine Except.bind_ok_iff.2 ⟨t.persona, written.optional inverse_text (by simp [slots]), ?_⟩
  refine Except.bind_ok_iff.2 ⟨t.knowledge, t.list_slot (by simp [slots]), ?_⟩
  refine Except.bind_ok_iff.2 ⟨t.jokers, t.list_slot (by simp [slots]), ?_⟩
  refine Except.bind_ok_iff.2 ⟨t.postprocessing, t.list_slot (by simp [slots]), ?_⟩
  refine Except.bind_ok_iff.2 ⟨t.expectations, t.expectations_slot, ?_⟩
  refine Except.bind_ok_iff.2 ⟨t.format, written.optional inverse_format (by simp [slots]), ?_⟩
  refine Except.bind_ok_iff.2 ⟨t.language, written.optional inverse_text (by simp [slots]), ?_⟩
  refine Except.bind_ok_iff.2 ⟨t.content, written.required inverse_text (by simp [slots]), ?_⟩
  refine Except.bind_ok_iff.2 ⟨t.prepared, written.optional inverse_text (by simp [slots]), ?_⟩
  refine Except.bind_ok_iff.2
    ⟨t.dependents, written.withDefault_some inverse_names (by simp [slots]) _, ?_⟩
  refine Except.bind_ok_iff.2 ⟨t.result, written.required inverse_text (by simp [slots]), ?_⟩
  rfl

end Template

/-! ## Pipelines -/

namespace Pipeline

/-- The members of a pipeline. -/
def slots (p : Pipeline) : Slots :=
  [("pipelineUrl", p.url.map .string), ("title", some (.string p.title)),
    ("promptbookVersion", p.version.map .string), ("description", p.description.map .string),
    ("parameters", some (.list (p.parameters.map Parameter.toJson))),
    ("promptTemplates", some (.list (p.templates.map Template.toJson))),
    ("knowledgeSources", some (.list (p.knowledge.map KnowledgeSource.toJson))),
    ("personas", some (.list (p.personas.map Persona.toJson))),
    ("defaultModelRequirements", p.defaults.map ModelRequirements.toJson)]

theorem toJson_eq (p : Pipeline) : p.toJson = .object (Json.present p.slots) := by
  simp [toJson, slots, Json.present_cons, Json.optionalMember_eq, Json.present_nil]

theorem isRecord (p : Pipeline) : IsRecord fields p.slots where
  distinct := by decide
  fits :=
    .cons (inverse_text.fits_nullable _ _) <|
    .cons (inverse_text.fits _ (some p.title)) <|
    .cons (inverse_text.fits_nullable _ _) <|
    .cons (inverse_text.fits_nullable _ _) <|
    .cons (Parameter.inverse.listOf.fits _ (some p.parameters)) <|
    .cons (Template.inverse.listOf.fits _ (some p.templates)) <|
    .cons (KnowledgeSource.inverse.listOf.fits _ (some p.knowledge)) <|
    .cons (Persona.inverse.listOf.fits _ (some p.personas)) <|
    .cons (ModelRequirements.inverse.fits_nullable _ _) .nil

/-- **A pipeline is taken back.** -/
theorem inverse : Inverse toJson ofJson := by
  refine .ofRecord toJson_eq isRecord fun p => ?_
  have written := p.isRecord
  refine Except.bind_ok_iff.2 ⟨_, written.record _, ?_⟩
  refine Except.bind_ok_iff.2 ⟨p.url, written.optional inverse_text (by simp [slots]), ?_⟩
  refine Except.bind_ok_iff.2 ⟨p.title, written.required inverse_text (by simp [slots]), ?_⟩
  refine Except.bind_ok_iff.2 ⟨p.version, written.optional inverse_text (by simp [slots]), ?_⟩
  refine Except.bind_ok_iff.2
    ⟨p.description, written.optional inverse_text (by simp [slots]), ?_⟩
  refine Except.bind_ok_iff.2
    ⟨p.parameters, written.withDefault_some Parameter.inverse.listOf (by simp [slots]) _, ?_⟩
  refine Except.bind_ok_iff.2
    ⟨p.templates, written.withDefault_some Template.inverse.listOf (by simp [slots]) _, ?_⟩
  refine Except.bind_ok_iff.2
    ⟨p.knowledge, written.withDefault_some KnowledgeSource.inverse.listOf (by simp [slots]) _, ?_⟩
  refine Except.bind_ok_iff.2
    ⟨p.personas, written.withDefault_some Persona.inverse.listOf (by simp [slots]) _, ?_⟩
  refine Except.bind_ok_iff.2
    ⟨p.defaults, written.optional ModelRequirements.inverse (by simp [slots]), ?_⟩
  rfl

/-- A pipeline is taken back from its text. -/
theorem ofJsonText_toJsonText (p : Pipeline) : ofJsonText p.toJsonText = .ok p := by
  obtain ⟨read, -⟩ := Json.ofText_print (inverse.faultless p)
  rw [ofJsonText, toJsonText, read]
  exact Except.bind_ok_iff.2 ⟨p, inverse.decodes p, rfl⟩

end Pipeline

/-- **Pipelines and commands are taken back from JSON**, as values and from their texts:
those of pipelines, and those of commands with white space and without. -/
theorem json_round_trip :
    (∀ p : Pipeline, Pipeline.ofJson p.toJson = .ok p ∧ Pipeline.ofJsonText p.toJsonText = .ok p)
      ∧ ∀ c : Command, Command.ofJson c.toJson = .ok c
        ∧ Command.ofJsonText (Json.pretty c.toJson) = .ok c
        ∧ Command.ofJsonText (Json.compact c.toJson) = .ok c :=
  ⟨fun p => ⟨Pipeline.inverse.decodes p, p.ofJsonText_toJsonText⟩,
    fun c => ⟨Command.inverse.decodes c, c.ofJsonText_print⟩⟩

end PromptPipeline
