/-
# Proofs.Json.Command -- commands are taken back from JSON

A command is written as its type and the slots of the fields of its kind (`arguments_eq`,
`isRecord`).  None of them is a type or reaches the limits of a value that is read as a whole,
so they are held back until the type is known (`splitType_arguments`) and then taken back as
a record (`ofRecord_slots`).
-/
import PromptPipeline.Proofs.Json.Record

namespace PromptPipeline

set_option autoImplicit false

open Json (Decoded Inverse IsRecord Slots inverse_text inverse_flag inverse_word32)

namespace Command

/-! ## Slots -/

/-- The words of a vocabulary that are told apart are taken back inside of a command. -/
theorem inverse_wordIn {α : Type} {all : List α} {word : α → String}
    (told : ∀ a, all.find? (word · == word a) = some a) :
    Inverse (fun a => .string (word a)) (wordIn all word) where
  decodes a := Json.wordOf_word (told a)
  notNull _ := Json.noConfusion
  faultless _ := .string _

/-- The members of a command beside its type. -/
def slots : Command → Slots
  | .url s => [("pipelineUrl", some (.string s))]
  | .version s => [("promptbookVersion", some (.string s))]
  | .parameter name description isInput isOutput =>
      [("parameterName", some (.string name)), ("parameterDescription", description.map .string),
        ("isInput", some (.bool isInput)), ("isOutput", some (.bool isOutput))]
  | .execute kind => [("executionType", some (.string kind.word))]
  | .model key value => [("key", some (.string key.jsonWord)), ("value", some (.string value))]
  | .persona name description =>
      [("personaName", some (.string name)), ("personaDescription", description.map .string)]
  | .knowledge source => [("sourceContent", some (.string source))]
  | .expectAmount sign unit amount =>
      [("sign", some (.string sign.jsonWord)), ("unit", some (.string unit.jsonWord)),
        ("amount", some (.nat amount.toNat))]
  | .expectFormat format => [("format", some (.string format.word))]
  | .postprocess function => [("functionName", some (.string function))]
  | .joker name => [("parameterName", some (.string name))]
  | .iterate format part name =>
      [("formatName", some (.string format.word)), ("cellName", some (.string part.word)),
        ("parameterName", some (.string name))]

theorem arguments_eq (c : Command) : c.arguments = Json.present c.slots := by
  cases c <;>
    simp [arguments, slots, Json.present_cons, Json.optionalMember_eq, Json.present_nil]

theorem inverse_execution :
    Inverse (fun e : Execution => .string e.word) (wordIn Execution.all Execution.word) :=
  inverse_wordIn fun e => by cases e <;> decide

theorem inverse_key :
    Inverse (fun k : ModelKey => .string k.jsonWord) (wordIn ModelKey.all ModelKey.jsonWord) :=
  inverse_wordIn fun k => by cases k <;> decide

theorem inverse_sign :
    Inverse (fun s : BoundSign => .string s.jsonWord) (wordIn BoundSign.all BoundSign.jsonWord) :=
  inverse_wordIn fun s => by cases s <;> decide

theorem inverse_unit :
    Inverse (fun u : AmountUnit => .string u.jsonWord)
      (wordIn AmountUnit.all AmountUnit.jsonWord) :=
  inverse_wordIn fun u => by cases u <;> decide

theorem inverse_format :
    Inverse (fun f : ResultFormat => .string f.word) (wordIn ResultFormat.all ResultFormat.word) :=
  inverse_wordIn fun f => by cases f; decide

theorem inverse_iterationFormat :
    Inverse (fun f : IterationFormat => .string f.word)
      (wordIn IterationFormat.all IterationFormat.word) :=
  inverse_wordIn fun f => by cases f <;> decide

theorem inverse_iterationCell :
    Inverse (fun p : IterationCell => .string p.word)
      (wordIn IterationCell.all IterationCell.word) :=
  inverse_wordIn fun p => by cases p <;> decide

theorem Kind.names (kind : Kind) :
    (kind.fields.map (·.name)).Nodup ∧ "type" ∉ kind.fields.map (·.name) := by
  cases kind <;> decide

/-- **The slots of a command are those of the fields of its kind.** -/
theorem isRecord (c : Command) : IsRecord c.kind.fields c.slots where
  distinct := c.kind.names.1
  fits := by
    cases c with
    | url s => exact .cons (inverse_text.fits _ (some s)) .nil
    | version s => exact .cons (inverse_text.fits _ (some s)) .nil
    | parameter name description isInput isOutput =>
        exact .cons (inverse_text.fits _ (some name)) <|
          .cons (inverse_text.fits_nullable _ _) <|
          .cons (inverse_flag.fits _ (some isInput)) <|
          .cons (inverse_flag.fits _ (some isOutput)) .nil
    | execute kind => exact .cons (inverse_execution.fits _ (some kind)) .nil
    | model key value =>
        exact .cons (inverse_key.fits _ (some key)) <|
          .cons (inverse_text.fits _ (some value)) .nil
    | persona name description =>
        exact .cons (inverse_text.fits _ (some name)) <|
          .cons (inverse_text.fits_nullable _ _) .nil
    | knowledge source => exact .cons (inverse_text.fits _ (some source)) .nil
    | expectAmount sign unit amount =>
        exact .cons (inverse_sign.fits _ (some sign)) <|
          .cons (inverse_unit.fits _ (some unit)) <|
          .cons (inverse_word32.fits _ (some amount)) .nil
    | expectFormat format => exact .cons (inverse_format.fits _ (some format)) .nil
    | postprocess function => exact .cons (inverse_text.fits _ (some function)) .nil
    | joker name => exact .cons (inverse_text.fits _ (some name)) .nil
    | iterate format part name =>
        exact .cons (inverse_iterationFormat.fits _ (some format)) <|
          .cons (inverse_iterationCell.fits _ (some part)) <|
          .cons (inverse_text.fits _ (some name)) .nil

/-! ## Reading -/

/-- **A command is taken back from its slots.** -/
theorem ofRecord_slots (c : Command) :
    ofRecord ⟨Json.present c.slots, .missing⟩ c.kind = .ok c := by
  have isRecord := c.isRecord
  cases c with
  | url s =>
      exact Except.bind_ok_iff.2 ⟨s, isRecord.required inverse_text (by simp [slots]), rfl⟩
  | version s =>
      exact Except.bind_ok_iff.2 ⟨s, isRecord.required inverse_text (by simp [slots]), rfl⟩
  | parameter name description isInput isOutput =>
      refine Except.bind_ok_iff.2 ⟨name, isRecord.required inverse_text (by simp [slots]), ?_⟩
      refine Except.bind_ok_iff.2
        ⟨description, isRecord.optional inverse_text (by simp [slots]), ?_⟩
      refine Except.bind_ok_iff.2 ⟨isInput, isRecord.required inverse_flag (by simp [slots]), ?_⟩
      refine Except.bind_ok_iff.2 ⟨isOutput, isRecord.required inverse_flag (by simp [slots]), ?_⟩
      rfl
  | execute kind =>
      exact Except.bind_ok_iff.2 ⟨kind, isRecord.required inverse_execution (by simp [slots]), rfl⟩
  | model key value =>
      refine Except.bind_ok_iff.2 ⟨key, isRecord.required inverse_key (by simp [slots]), ?_⟩
      refine Except.bind_ok_iff.2 ⟨value, isRecord.required inverse_text (by simp [slots]), ?_⟩
      rfl
  | persona name description =>
      refine Except.bind_ok_iff.2 ⟨name, isRecord.required inverse_text (by simp [slots]), ?_⟩
      refine Except.bind_ok_iff.2
        ⟨description, isRecord.optional inverse_text (by simp [slots]), ?_⟩
      rfl
  | knowledge source =>
      exact Except.bind_ok_iff.2 ⟨source, isRecord.required inverse_text (by simp [slots]), rfl⟩
  | expectAmount sign unit amount =>
      refine Except.bind_ok_iff.2 ⟨sign, isRecord.required inverse_sign (by simp [slots]), ?_⟩
      refine Except.bind_ok_iff.2 ⟨unit, isRecord.required inverse_unit (by simp [slots]), ?_⟩
      refine Except.bind_ok_iff.2 ⟨amount, isRecord.required inverse_word32 (by simp [slots]), ?_⟩
      rfl
  | expectFormat format =>
      exact Except.bind_ok_iff.2 ⟨format, isRecord.required inverse_format (by simp [slots]), rfl⟩
  | postprocess function =>
      exact Except.bind_ok_iff.2 ⟨function, isRecord.required inverse_text (by simp [slots]), rfl⟩
  | joker name =>
      exact Except.bind_ok_iff.2 ⟨name, isRecord.required inverse_text (by simp [slots]), rfl⟩
  | iterate format part name =>
      refine Except.bind_ok_iff.2
        ⟨format, isRecord.required inverse_iterationFormat (by simp [slots]), ?_⟩
      refine Except.bind_ok_iff.2
        ⟨part, isRecord.required inverse_iterationCell (by simp [slots]), ?_⟩
      refine Except.bind_ok_iff.2 ⟨name, isRecord.required inverse_text (by simp [slots]), ?_⟩
      rfl

/-! ## The type and the other members -/

/-- A number of 32 bits is kept as a whole one. -/
theorem isWhole_word32 (n : UInt32) : Json.isWhole n.toNat = true := by
  have least : Int64.minValue.toInt ≤ (n.toNat : Int) := by
    have negative : Int64.minValue.toInt ≤ 0 := by decide
    omega
  have greatest : (n.toNat : Int) < Int.ofNat UInt64.size :=
    Int.ofNat_lt.2 (Nat.lt_trans n.toNat_lt (by decide))
  rw [Json.isWhole, decide_eq_true least, decide_eq_true greatest]
  rfl

/-- A number of 32 bits has no fault. -/
theorem wholeFault_word32 (room : Nat) (n : UInt32) :
    Json.wholeFault room (.nat n.toNat) = none := by
  rw [Json.nat, Json.wholeFault, Json.numberFound, if_pos (isWhole_word32 n)]

/-- Nothing among the members of a command has a fault. -/
theorem wholeFault_slots (c : Command) (room : Nat) :
    ∀ slot ∈ c.slots, ∀ j ∈ slot.2, Json.wholeFault room j = none := by
  cases c with
  | parameter name description isInput isOutput =>
      cases description <;> simp [slots, Json.wholeFault]
  | persona name description =>
      cases description <;> simp [slots, Json.wholeFault]
  | expectAmount sign unit amount => simp [slots, Json.wholeFault, wholeFault_word32]
  | _ => simp [slots, Json.wholeFault]

/-- Members without a fault that are no types are held back. -/
theorem splitType_others {tag : Option Kind} {members : List (String × Json)}
    (others : ∀ m ∈ members, m.1 ≠ "type" ∧ Json.wholeFault depthLimit m.2 = none) :
    splitType tag members = .ok (tag, members) := by
  induction members with
  | nil => rfl
  | cons m members ih =>
      obtain ⟨⟨notType, whole⟩, others⟩ := List.forall_mem_cons.1 others
      unfold splitType
      rw [if_neg notType, whole]
      exact Except.bind_ok_iff.2 ⟨_, ih others, rfl⟩

theorem splitType_arguments (c : Command) :
    splitType none (("type", .string c.kind.word) :: c.arguments)
      = .ok (some c.kind, c.arguments) := by
  have told : Kind.all.find? (·.word == c.kind.word) = some c.kind := by
    generalize c.kind = kind
    cases kind <;> decide
  unfold splitType
  rw [if_pos rfl]
  refine Except.bind_ok_iff.2 ⟨c.kind, Json.wordOf_word told, splitType_others fun m inside => ?_⟩
  rw [arguments_eq] at inside
  have slot := Json.mem_present.1 inside
  refine ⟨fun isType => c.kind.names.2 ?_, c.wholeFault_slots depthLimit _ slot m.2 rfl⟩
  rw [← isType, ← c.isRecord.names]
  exact List.mem_map_of_mem (f := Prod.fst) slot

/-- **A command is taken back.** -/
theorem inverse : Inverse toJson ofJson where
  decodes c := by
    refine Except.bind_ok_iff.2 ⟨_, c.splitType_arguments, ?_⟩
    refine Except.bind_ok_iff.2 ⟨(), rfl, ?_⟩
    refine Except.bind_ok_iff.2 ⟨⟨Json.present c.slots, .missing⟩, ?_, c.ofRecord_slots⟩
    rw [arguments_eq]
    exact c.isRecord.record c.kind.title
  notNull _ := Json.noConfusion
  faultless c := by
    rw [toJson, arguments_eq]
    refine .object fun m inside => ?_
    rcases List.mem_cons.1 inside with rfl | inside
    · exact .string _
    · obtain ⟨field, -, fit⟩ := c.isRecord.exists_field (Json.mem_present.1 inside)
      exact fit.faultless m.2 rfl

/-- A command is taken back from its text. -/
theorem ofJsonText_print (c : Command) :
    ofJsonText (Json.pretty c.toJson) = .ok c ∧ ofJsonText (Json.compact c.toJson) = .ok c := by
  obtain ⟨pretty, compact⟩ := Json.ofText_print (inverse.faultless c)
  constructor
  · rw [ofJsonText, pretty]
    exact Except.bind_ok_iff.2 ⟨c, inverse.decodes c, rfl⟩
  · rw [ofJsonText, compact]
    exact Except.bind_ok_iff.2 ⟨c, inverse.decodes c, rfl⟩

end Command

end PromptPipeline
