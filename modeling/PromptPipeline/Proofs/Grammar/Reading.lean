/-
# Proofs.Grammar.Reading -- which arguments a directive reads

For each directive, the arguments that it reads and the command that it makes of them.
Nothing else of the line matters than the keyword, the words and the sources, so two
lines that have these alike give the same command.
-/
import PromptPipeline.Proofs.Edit.Run
import PromptPipeline.Grammar.Basic

namespace PromptPipeline.Directive

set_option autoImplicit false

variable {a : Arguments} {c : Command}

theorem single_ok_iff {command word : String} :
    a.single command = .ok word ↔ a.words = [word] := by
  unfold Arguments.single
  split
  · rename_i only is
    rw [is]
    constructor
    · rintro ⟨⟩
      rfl
    · intro same
      rw [List.singleton_inj.1 same]
  · rename_i others
    constructor
    · rintro ⟨⟩
    · intro is
      exact absurd is (others word)

/-- What is read of the only word. -/
theorem single_bind_ok_iff {command : String} {read : String → Except ParseError Command} :
    (a.single command >>= read) = .ok c ↔ ∃ word, a.words = [word] ∧ read word = .ok c := by
  simp only [Except.bind_ok_iff, single_ok_iff]

/-- What is read if a condition holds, and refused otherwise. -/
theorem ite_ok_iff {condition : Prop} [Decidable condition] {read : Command} {e : ParseError} :
    (if condition then pure read else throw e : Except ParseError Command) = .ok c
      ↔ condition ∧ c = read := by
  split
  · rename_i holds
    simp [holds, pure, Except.pure, eq_comm]
  · rename_i fails
    simp [fails, throw, throwThe, MonadExceptOf.throw]

theorem Url.parse_ok_iff {check : String → Except PromptPipeline.Url.Fault String} :
    Url.parse check a = .ok c
      ↔ ∃ url, a.words = [url] ∧ check url = .ok "https" ∧ c = .url url := by
  unfold Url.parse
  rw [single_bind_ok_iff]
  refine exists_congr fun url => and_congr_right fun _ => ?_
  cases check url with
  | error fault => simp [throw, throwThe, MonadExceptOf.throw]
  | ok scheme => exact ite_ok_iff.trans (by simp)

theorem Version.parse_ok_iff :
    Version.parse a = .ok c
      ↔ ∃ version, a.words = [version] ∧ SemanticVersion.isValid version = true
        ∧ c = .version version := by
  unfold Version.parse
  simp only [single_bind_ok_iff, ite_ok_iff]

/-- The description that a text gives, if it has any character. -/
def described (s : String) : Option String := if s.isEmpty then none else some s

theorem Parameter.parse_ok_iff :
    Parameter.parse a = .ok c
      ↔ ∃ raw rest name, a.words = raw :: rest ∧ Name.validate raw = .ok name
        ∧ c = .parameter name (described (a.sourceFrom 1)) (Text.startsWith "INPUT" a.keyword)
          (Text.startsWith "OUTPUT" a.keyword) := by
  unfold Parameter.parse
  constructor
  · intro parsed
    split at parsed
    · cases parsed
    · split at parsed
      · cases parsed
      · rename_i raw rest is _ name valid
        cases parsed
        exact ⟨raw, rest, name, is, valid, rfl⟩
  · rintro ⟨raw, rest, name, is, valid, rfl⟩
    rw [is]
    dsimp only
    rw [valid]
    rfl

theorem Execute.parse_ok_iff :
    Execute.parse a = .ok c
      ↔ ∃ execution, Execution.ofKeyword? (Text.join " " a.words) = some execution
        ∧ c = .execute execution := by
  unfold Execute.parse
  dsimp only
  constructor
  · intro parsed
    split at parsed
    · cases parsed
      exact ⟨_, ‹_›, rfl⟩
    · cases parsed
  · rintro ⟨execution, named, rfl⟩
    rw [named]

theorem Model.parse_ok_iff :
    Model.parse a = .ok c
      ↔ (∃ word values variant, a.words = word :: values ∧ Unicode.upperText word = "VARIANT"
          ∧ ModelVariant.ofKeyword? (Text.join " " values) = some variant
          ∧ c = .model .variant variant.word)
        ∨ ∃ word name, a.words = [word, name] ∧ Unicode.upperText word = "NAME"
          ∧ c = .model .name name := by
  unfold Model.parse
  constructor
  · intro parsed
    split at parsed
    · cases parsed
    · rename_i word values is
      dsimp only at parsed
      split at parsed
      · rename_i key
        split at parsed
        · cases parsed
          exact .inl ⟨word, values, _, is, key, ‹_›, rfl⟩
        · cases parsed
      · split at parsed
        · rename_i key
          split at parsed
          · cases parsed
            exact .inr ⟨word, _, is, key, rfl⟩
          · cases parsed
        · cases parsed
  · rintro (⟨word, values, variant, is, key, named, rfl⟩ | ⟨word, name, is, key, rfl⟩)
    · rw [is]
      dsimp only
      rw [if_pos key, named]
    · have other : ¬Unicode.upperText word = "VARIANT" := by
        rw [key]
        decide
      rw [is]
      dsimp only
      rw [if_neg other, if_pos key]

/-- The name and the description that a source gives a persona. -/
def Persona.spoken (source : List Char) : List Char × List Char :=
  (Persona.bareName (source.takeWhile (· != ',')),
    Text.strip Unicode.isBlank (source.dropWhile (· != ',')).tail)

theorem Persona.parse_ok_iff :
    Persona.parse a = .ok c
      ↔ ∃ name description, Persona.spoken (a.sourceFrom 0).toList = (name, description)
        ∧ name ≠ []
        ∧ c = .persona (String.ofList name) (described (String.ofList description)) := by
  unfold Persona.parse Persona.spoken described
  dsimp only
  constructor
  · intro parsed
    split at parsed
    · cases parsed
    · rename_i filled
      cases parsed
      exact ⟨_, _, rfl, by simpa using filled, by simp⟩
  · rintro ⟨name, description, spoken, filled, rfl⟩
    obtain ⟨rfl, rfl⟩ := Prod.mk.inj spoken
    rw [if_neg (by simpa using filled)]
    simp

/-- What a text must be to be a source of knowledge: no URL, or one that is checked. -/
def Knowledge.Acceptable (source : String) : Prop :=
  Text.startsWith "http://" source = false
    ∧ (Text.startsWith "https://" source = true
      → ∃ scheme, PromptPipeline.Url.check source = .ok scheme)

/-- What the directive does with a source. -/
theorem Knowledge.check_ok_iff {source : String} :
    (if Text.startsWith "http://" source then
        (throw (.invalidArguments (.sourceNotHttps source)) : Except ParseError Command)
      else if Text.startsWith "https://" source then
        match PromptPipeline.Url.check source with
        | .error fault => throw (.invalidArguments (.invalidSourceUrl source fault))
        | .ok _ => return .knowledge source
      else return .knowledge source) = .ok c
    ↔ Acceptable source ∧ c = .knowledge source := by
  unfold Acceptable
  cases Text.startsWith "http://" source with
  | true => simp [throw, throwThe, MonadExceptOf.throw]
  | false =>
      cases Text.startsWith "https://" source with
      | true =>
          cases PromptPipeline.Url.check source with
          | error fault => simp [throw, throwThe, MonadExceptOf.throw]
          | ok scheme => simp [pure, Except.pure, eq_comm]
      | false => simp [pure, Except.pure, eq_comm]

theorem Knowledge.parse_ok_iff :
    Knowledge.parse PromptPipeline.Url.check a = .ok c
      ↔ ∃ source, (a.words = [source]
            ∨ (∃ first second rest, a.words = first :: second :: rest) ∧ a.sourceFrom 0 = source)
          ∧ Acceptable source ∧ c = .knowledge source := by
  unfold Knowledge.parse
  rcases words : a.words with _ | ⟨first, _ | ⟨second, rest⟩⟩
  · simp [throw, throwThe, MonadExceptOf.throw, bind, Except.bind]
  · refine Knowledge.check_ok_iff.trans ?_
    simp
  · refine Knowledge.check_ok_iff.trans ?_
    simp

theorem Expect.parse_ok_iff :
    Expect.parse a = .ok c
      ↔ (∃ word, a.words = [word] ∧ Expect.isJson word = true ∧ c = .expectFormat .json)
        ∨ ∃ signWord amountWord unitWord sign amount unit,
          a.words = [signWord, amountWord, unitWord] ∧ BoundSign.ofKeyword? signWord = some sign
          ∧ Expect.amount? amountWord = some amount ∧ AmountUnit.ofKeyword? unitWord = some unit
          ∧ c = .expectAmount sign unit amount := by
  unfold Expect.parse
  constructor
  · intro parsed
    split at parsed
    · rename_i word is
      split at parsed
      · cases parsed
        exact .inl ⟨word, is, ‹_›, rfl⟩
      · cases parsed
    · rename_i signWord amountWord unitWord is
      split at parsed
      · cases parsed
      · split at parsed
        · cases parsed
        · split at parsed
          · cases parsed
          · cases parsed
            exact .inr ⟨signWord, amountWord, unitWord, _, _, _, is, ‹_›, ‹_›, ‹_›, rfl⟩
    · cases parsed
  · rintro (⟨word, is, json, rfl⟩
      | ⟨signWord, amountWord, unitWord, sign, amount, unit, is, signed, counted, measured, rfl⟩)
    · rw [is]
      dsimp only
      rw [if_pos json]
    · rw [is]
      dsimp only
      rw [signed, counted, measured]

theorem Postprocess.parse_ok_iff :
    Postprocess.parse a = .ok c
      ↔ ∃ function, a.words = [function] ∧ Postprocess.isFunctionName function.toList = true
        ∧ c = .postprocess function := by
  unfold Postprocess.parse
  simp only [single_bind_ok_iff, ite_ok_iff]

theorem Joker.parse_ok_iff :
    Joker.parse a = .ok c
      ↔ ∃ raw name, a.words = [raw] ∧ Name.validate raw = .ok name ∧ c = .joker name := by
  unfold Joker.parse
  rw [single_bind_ok_iff]
  refine exists_congr fun raw => ?_
  rw [exists_and_left]
  refine and_congr_right fun _ => ?_
  cases Name.validate raw with
  | error refusal => simp [throw, throwThe, MonadExceptOf.throw]
  | ok name => simp [pure, Except.pure, eq_comm]

/-- Only a repetition is read of one, whichever formats there are. -/
theorem Iterate.eq_of_parse (parsed : Iterate.parse a = .ok c) :
    ∃ format part name, c = .iterate format part name := by
  unfold Iterate.parse at parsed
  dsimp only at parsed
  split at parsed
  · cases parsed
  · split at parsed
    · cases parsed
    · split at parsed
      · cases parsed
      · split at parsed
        · cases parsed
        · split at parsed
          · cases parsed
            exact ⟨_, _, _, rfl⟩
          · cases parsed

/-! ## Arguments that are read alike -/

/-- Arguments that only an error tells apart. -/
structure Alike (a b : Arguments) : Prop where
  keyword : a.keyword = b.keyword
  words : a.words = b.words
  source : ∀ index, a.sourceFrom index = b.sourceFrom index

theorem Knowledge.parse_congr {check : String → Except PromptPipeline.Url.Fault String}
    {b : Arguments} (words : a.words = b.words) (source : a.sourceFrom 0 = b.sourceFrom 0) :
    Knowledge.parse check a = Knowledge.parse check b := by
  unfold Knowledge.parse
  rw [words, source]

theorem Iterate.parse_congr {b : Arguments} (words : a.words = b.words) :
    Iterate.parse a = Iterate.parse b := by
  unfold Iterate.parse
  rw [words]

/-- **Every directive reads the same command from arguments that are alike**, whatever the
check of URLs. -/
theorem parse_ok_congr {check : String → Except PromptPipeline.Url.Fault String} {d : Directive}
    (member : d ∈ Grammar.catalogWith check) {b : Arguments} (alike : Alike a b) :
    d.parse a = .ok c ↔ d.parse b = .ok c := by
  obtain ⟨keyword, words, source⟩ := alike
  simp only [Grammar.catalogWith, List.mem_cons, List.not_mem_nil, or_false] at member
  rcases member with rfl | rfl | rfl | rfl | rfl | rfl | rfl | rfl | rfl | rfl | rfl
  · simp only [urlWith, Url.parse_ok_iff, words]
  · simp only [version, Version.parse_ok_iff, words]
  · simp only [parameter, Parameter.parse_ok_iff, words, source, keyword]
  · simp only [execute, Execute.parse_ok_iff, words]
  · simp only [model, Model.parse_ok_iff, words]
  · simp only [persona, Persona.parse_ok_iff, source]
  · simp only [knowledgeWith, Knowledge.parse_congr words (source 0)]
  · simp only [expect, Expect.parse_ok_iff, words]
  · simp only [postprocess, Postprocess.parse_ok_iff, words]
  · simp only [joker, Joker.parse_ok_iff, words]
  · simp only [iterate, Iterate.parse_congr words]

end PromptPipeline.Directive
