/-
# Proofs.Json.Record -- decoders that take back what encoders write

`Inverse encode decode` says that a decoder takes back whatever the encoder writes, which is a
value without faults and never `null`, so a value that may be missing is told from one that
is there (`Inverse.nullable`).

The members of a record are `Slots`: names in the order of the fields, each with a value
unless it is left out.  Slots of the fields are accepted as a record (`IsRecord.record`), in
which each name is found with its value (`lookup_present`); so a field is taken back from
its slot, whether it must be there (`required_slot`), may be missing (`optional_slot`) or has
a default (`default_slot`).
-/
import PromptPipeline.Pipeline.Json
import PromptPipeline.Proofs.Edit.Run
import PromptPipeline.Proofs.Json.Text

namespace PromptPipeline.Json

set_option autoImplicit false

/-! ## Inverses -/

/-- A decoder takes back what an encoder writes. -/
structure Inverse {α : Type} (encode : α → Json) (decode : Json → Decoded α) : Prop where
  decodes : ∀ a, decode (encode a) = .ok a
  notNull : ∀ a, encode a ≠ .null
  faultless : ∀ a, Faultless (encode a)

variable {α : Type} {encode : α → Json} {decode : Json → Decoded α}

theorem inverse_text : Inverse .string text where
  decodes _ := rfl
  notNull _ := Json.noConfusion
  faultless := .string

theorem inverse_flag : Inverse .bool flag where
  decodes _ := rfl
  notNull _ := Json.noConfusion
  faultless := .bool

theorem inverse_word32 : Inverse (fun n => .nat n.toNat) word32 where
  decodes n := by
    have fits : (0 : Int) ≤ n.toNat ∧ (n.toNat : Int).toNat < UInt32.size :=
      ⟨by omega, n.toNat_lt⟩
    rw [nat, word32, if_pos fits, Int.toNat_natCast, UInt32.ofNat_toNat]
  notNull _ := Json.noConfusion
  faultless _ := .number _

/-- The words of a vocabulary that are told apart are taken back. -/
theorem wordOf_word {all : List α} {word : α → String} {a : α}
    (told : all.find? (word · == word a) = some a) : wordOf all word (word a) = .ok a := by
  rw [wordOf, told]

theorem inverse_vocabulary {all : List α} {word : α → String}
    (told : ∀ a, all.find? (word · == word a) = some a) :
    Inverse (fun a => .string (word a)) (vocabulary all word) where
  decodes a := wordOf_word (told a)
  notNull _ := Json.noConfusion
  faultless _ := .string _

/-- Every item of a list is taken back. -/
theorem Inverse.mapM (inverse : Inverse encode decode) (l : List α) :
    (l.map encode).mapM decode = .ok l := by
  induction l with
  | nil => rfl
  | cons a l ih =>
      rw [List.map_cons, List.mapM_cons, inverse.decodes, ih]
      rfl

theorem Inverse.listOf (inverse : Inverse encode decode) :
    Inverse (fun l => .list (l.map encode)) (listOf decode) where
  decodes l := by
    rw [Json.listOf, inverse.mapM]
    rfl
  notNull _ := Json.noConfusion
  faultless l := by
    refine .list fun j member => ?_
    obtain ⟨a, -, rfl⟩ := List.mem_map.1 member
    exact inverse.faultless a

/-- What may be missing is there if it is written. -/
theorem Inverse.nullable (inverse : Inverse encode decode) (a : α) :
    nullable decode (encode a) = .ok (some a) := by
  unfold Json.nullable
  split
  · rename_i null
    exact absurd null (inverse.notNull a)
  · rw [inverse.decodes]
    rfl

/-! ## Members -/

/-- Members of distinct names are accepted if their fields accept them. -/
theorem checkMembers_ok {fields : List Field} :
    ∀ {members : List (String × Json)} {seen : List String}, (members.map Prod.fst).Nodup →
      (∀ m ∈ members, m.1 ∉ seen
        ∧ ∃ field, fields.find? (·.name == m.1) = some field ∧ field.check m.2 = .ok ()) →
      checkMembers fields seen members = .ok () := by
  intro members
  induction members with
  | nil => exact fun _ _ => rfl
  | cons m members ih =>
      intro seen distinct each
      obtain ⟨fresh, distinct⟩ := List.nodup_cons.1 distinct
      obtain ⟨⟨new, field, found, checked⟩, others⟩ := List.forall_mem_cons.1 each
      have notSeen : ¬seen.contains m.1 = true := by simpa using new
      rw [checkMembers]
      simp only [found]
      rw [if_neg notSeen, checked]
      refine ih distinct fun m' inside => ?_
      obtain ⟨new', known⟩ := others m' inside
      refine ⟨fun there => ?_, known⟩
      rcases List.mem_cons.1 there with same | there
      · exact fresh (same ▸ List.mem_map_of_mem inside)
      · exact new' there

/-- The members that a record may have, in the order of its fields. -/
abbrev Slots := List (String × Option Json)

/-- The members that are there. -/
def present (slots : Slots) : List (String × Json) :=
  slots.filterMap fun slot => slot.2.map (slot.1, ·)

theorem present_nil : present [] = [] := rfl

theorem present_cons (name : String) (value : Option Json) (slots : Slots) :
    present ((name, value) :: slots) = (value.map (name, ·)).toList ++ present slots := by
  cases value with
  | none => rfl
  | some value => rfl

theorem optionalMember_eq (name : String) (o : Option α) :
    optionalMember name encode o = ((o.map encode).map (name, ·)).toList := by
  cases o with
  | none => rfl
  | some a => rfl

theorem mem_present {slots : Slots} {m : String × Json} :
    m ∈ present slots ↔ (m.1, some m.2) ∈ slots := by
  rw [present, List.mem_filterMap]
  constructor
  · rintro ⟨⟨name, value⟩, member, is⟩
    obtain ⟨j, rfl, rfl⟩ := Option.map_eq_some_iff.1 is
    exact member
  · exact fun member => ⟨_, member, rfl⟩

theorem nodup_present {slots : Slots} (distinct : (slots.map Prod.fst).Nodup) :
    ((present slots).map Prod.fst).Nodup := by
  have sublist : ((present slots).map Prod.fst).Sublist (slots.map Prod.fst) := by
    induction slots with
    | nil => exact .slnil
    | cons slot slots ih =>
        have rest := ih (List.nodup_cons.1 distinct).2
        obtain ⟨name, value⟩ := slot
        rw [present_cons, List.map_append, List.map_cons]
        cases value with
        | none => exact rest.cons _
        | some value => exact rest.cons_cons _
  exact distinct.sublist sublist

/-- **A name is found with its value.** -/
theorem lookup_present {slots : Slots} (distinct : (slots.map Prod.fst).Nodup) {name : String}
    {value : Option Json} (member : (name, value) ∈ slots) :
    (present slots).lookup name = value := by
  induction slots with
  | nil => cases member
  | cons slot slots ih =>
      obtain ⟨name', value'⟩ := slot
      obtain ⟨fresh, distinct⟩ := List.nodup_cons.1 distinct
      rw [present_cons, List.lookup_append]
      rcases List.mem_cons.1 member with same | member
      · cases same
        cases value with
        | none =>
            rw [Option.map_none, Option.toList_none, List.lookup_nil, Option.none_or,
              List.lookup_eq_none_iff]
            rintro ⟨other, j⟩ inside
            have there := List.mem_map_of_mem (f := Prod.fst) (mem_present.1 inside)
            exact bne_iff_ne.2 fun same => fresh (same ▸ there)
        | some value => simp
      · have there : name ∈ slots.map Prod.fst := List.mem_map_of_mem (f := Prod.fst) member
        have differs : name ≠ name' := fun same => fresh (same ▸ there)
        have missing : ((value'.map (name', ·)).toList).lookup name = none := by
          cases value' with
          | none => rfl
          | some value' => simp [List.lookup_cons, beq_false_of_ne differs]
        rw [missing, Option.none_or]
        exact ih distinct member

/-! ## Records -/

/-- A slot has the name of a field, and a value that this field accepts if it has one. -/
structure Fits (field : Field) (slot : String × Option Json) : Prop where
  name : slot.1 = field.name
  checked : ∀ j ∈ slot.2, field.check j = .ok ()
  faultless : ∀ j ∈ slot.2, Faultless j

theorem Field.check_of {j : Json} {a : α} (decoded : decode j = .ok a) (name : String) :
    (Field.of name decode).check j = .ok () := by
  unfold Field.of
  dsimp only
  rw [decoded]
  rfl

/-- A field that must be there, or has a default. -/
theorem Inverse.fits (inverse : Inverse encode decode) (name : String) (o : Option α) :
    Fits (.of name decode) (name, o.map encode) where
  name := rfl
  checked j there := by
    obtain ⟨a, -, rfl⟩ := Option.map_eq_some_iff.1 there
    exact Field.check_of (inverse.decodes a) name
  faultless j there := by
    obtain ⟨a, -, rfl⟩ := Option.map_eq_some_iff.1 there
    exact inverse.faultless a

/-- A field that may be missing or `null`. -/
theorem Inverse.fits_nullable (inverse : Inverse encode decode) (name : String) (o : Option α) :
    Fits (.of name (Json.nullable decode)) (name, o.map encode) where
  name := rfl
  checked j there := by
    obtain ⟨a, -, rfl⟩ := Option.map_eq_some_iff.1 there
    exact Field.check_of (inverse.nullable a) name
  faultless := (inverse.fits name o).faultless

/-- A field is found by its name. -/
theorem find?_name {fields : List Field} (distinct : (fields.map (·.name)).Nodup) {field : Field}
    (member : field ∈ fields) : fields.find? (·.name == field.name) = some field := by
  induction fields with
  | nil => cases member
  | cons first fields ih =>
      obtain ⟨fresh, distinct⟩ := List.nodup_cons.1 distinct
      rcases List.mem_cons.1 member with rfl | member
      · exact List.find?_cons_of_pos (beq_self_eq_true _)
      · have there : field.name ∈ fields.map (·.name) :=
          List.mem_map_of_mem (f := Field.name) member
        have differs : ¬(first.name == field.name) = true := by
          intro same
          rw [← beq_iff_eq.1 same] at there
          exact fresh there
        rw [List.find?_cons]
        simp only [differs]
        exact ih distinct member

/-- The slots of the fields of a record. -/
structure IsRecord (fields : List Field) (slots : Slots) : Prop where
  distinct : (fields.map (·.name)).Nodup
  fits : List.Forall₂ Fits fields slots

namespace IsRecord

variable {fields : List Field} {slots : Slots}

theorem names (isRecord : IsRecord fields slots) : slots.map Prod.fst = fields.map (·.name) := by
  obtain ⟨-, fits⟩ := isRecord
  induction fits with
  | nil => rfl
  | cons first others ih => rw [List.map_cons, List.map_cons, first.name, ih]

theorem exists_field (isRecord : IsRecord fields slots) {slot : String × Option Json}
    (member : slot ∈ slots) : ∃ field ∈ fields, Fits field slot := by
  obtain ⟨-, fits⟩ := isRecord
  induction fits with
  | nil => cases member
  | cons first others ih =>
      rcases List.mem_cons.1 member with rfl | member
      · exact ⟨_, List.mem_cons_self, first⟩
      · obtain ⟨field, inside, fit⟩ := ih member
        exact ⟨field, List.mem_cons_of_mem _ inside, fit⟩

theorem distinctSlots (isRecord : IsRecord fields slots) : (slots.map Prod.fst).Nodup :=
  isRecord.names ▸ isRecord.distinct

/-- **Slots of the fields are accepted as a record.** -/
theorem record (isRecord : IsRecord fields slots) (title : String) :
    record title fields (.object (present slots)) = .ok ⟨present slots, .missing⟩ := by
  have checked : checkMembers fields [] (present slots) = .ok () := by
    refine checkMembers_ok (nodup_present isRecord.distinctSlots) fun m inside => ?_
    obtain ⟨field, member, fit⟩ := isRecord.exists_field (mem_present.1 inside)
    refine ⟨List.not_mem_nil, field, ?_, fit.checked m.2 rfl⟩
    rw [show m.1 = field.name from fit.name]
    exact find?_name isRecord.distinct member
  rw [Json.record, checked]
  rfl

theorem faultless (isRecord : IsRecord fields slots) : Faultless (.object (present slots)) := by
  refine .object fun m inside => ?_
  obtain ⟨field, -, fit⟩ := isRecord.exists_field (mem_present.1 inside)
  exact fit.faultless m.2 rfl

variable {name : String} {absent : String → Error}

/-- A field that must be there is taken back. -/
theorem required (isRecord : IsRecord fields slots) (inverse : Inverse encode decode) {a : α}
    (member : (name, some (encode a)) ∈ slots) :
    (⟨present slots, absent⟩ : Record).required name decode = .ok a := by
  rw [Record.required, lookup_present isRecord.distinctSlots member]
  exact inverse.decodes a

/-- A field with a default is taken back. -/
theorem withDefault (isRecord : IsRecord fields slots) (inverse : Inverse encode decode)
    {o : Option α} (member : (name, o.map encode) ∈ slots) (fallback : α) :
    (⟨present slots, absent⟩ : Record).withDefault name decode fallback
      = .ok (o.getD fallback) := by
  rw [Record.withDefault, lookup_present isRecord.distinctSlots member]
  cases o with
  | none => rfl
  | some a => exact inverse.decodes a

/-- A field with a default that is written all the same is taken back. -/
theorem withDefault_some (isRecord : IsRecord fields slots) (inverse : Inverse encode decode)
    {a : α} (member : (name, some (encode a)) ∈ slots) (fallback : α) :
    (⟨present slots, absent⟩ : Record).withDefault name decode fallback = .ok a :=
  isRecord.withDefault (o := some a) inverse member fallback

/-- A field that may be missing is taken back. -/
theorem optional (isRecord : IsRecord fields slots) (inverse : Inverse encode decode)
    {o : Option α} (member : (name, o.map encode) ∈ slots) :
    (⟨present slots, absent⟩ : Record).optional name decode = .ok o := by
  rw [Record.optional, Record.withDefault, lookup_present isRecord.distinctSlots member]
  cases o with
  | none => rfl
  | some a => exact inverse.nullable a

end IsRecord

/-- **A type is taken back if its values are written as slots of its fields**, and these are
taken back. -/
theorem Inverse.ofRecord {fields : List Field} {slots : α → Slots}
    (written : ∀ a, encode a = .object (present (slots a)))
    (isRecord : ∀ a, IsRecord fields (slots a))
    (decodes : ∀ a, decode (.object (present (slots a))) = .ok a) : Inverse encode decode where
  decodes a := by
    rw [written]
    exact decodes a
  notNull a := by
    rw [written]
    exact Json.noConfusion
  faultless a := by
    rw [written]
    exact (isRecord a).faultless

end PromptPipeline.Json
