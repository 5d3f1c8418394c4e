/-
# Proofs.Grammar.Words -- commands that are written in words

Commands whose arguments are written as words, between braces or between backticks.  The
closed vocabularies, versions, amounts and model names are always read back from their
lines.  A URL is if it has no blanks, a parameter or joker if its name is in camel case, and
a function if it is not made of underscores, which the keyword would absorb.
-/
import PromptPipeline.Proofs.Grammar.Heard
import PromptPipeline.Proofs.Name.Validate

namespace PromptPipeline.Grammar

set_option autoImplicit false

open Markdown (IsLine)
open Unicode (isBlank)

variable {place : Place}

/-! ## URLs and versions -/

/-- A URL is read back if it has no blanks. -/
theorem parse_url_iff {url : String} (used : Directive.url.isUsedIn place = true)
    (checked : Url.check url = .ok "https") (filled : url.toList ≠ []) (noTick : '`' ∉ url.toList)
    (isLine : IsLine url.toList) :
    standard.parse ("PROMPTBOOK URL " ++ url) place = .ok (.url url)
      ↔ ∀ c ∈ url.toList, isBlank c = false := by
  constructor
  · intro parsed
    obtain ⟨-, -, keyword, skipped, -, read⟩ := exists_arguments parsed
    dsimp only [owner, Command.kind, Directive.url, Directive.urlWith] at read
    obtain ⟨_, said, -, ⟨⟩⟩ := Directive.Url.parse_ok_iff.1 read
    exact fun c inside => (heard_solid (by decide) said c inside).2
  · intro solid
    have isWord : ∀ c ∈ url.toList, Token.IsWordChar c := fun c inside =>
      ⟨fun tick => noTick (tick ▸ inside), solid c inside⟩
    refine (parse_phrase_iff url isPhrase_url (by simp) (trimmed_of_solid isWord) filled).2
      ⟨isLine, used, ?_⟩
    dsimp only [Directive.url, Directive.urlWith]
    exact Directive.Url.parse_ok_iff.2 ⟨url, words_of_solid _ isWord filled, checked, rfl⟩

theorem isWordChar_of_not_mark {c : Char} (plain : Name.isMark c = false) : Token.IsWordChar c := by
  rw [Name.isMark, Bool.or_eq_false_iff, Bool.or_eq_false_iff] at plain
  refine ⟨?_, plain.1.1⟩
  rintro rfl
  exact absurd plain.2 (by decide)

/-- A test that no blank and no backtick meets. -/
theorem isWordChar_of_table {p : Char → Bool}
    (table : ∀ n ∈ Name.markCodes, p (Char.ofNat n) = true → Token.IsWordChar (Char.ofNat n))
    {c : Char} (holds : p c = true) : Token.IsWordChar c := by
  cases mark : Name.isMark c with
  | true =>
      have code := table c.toNat (Name.mem_markCodes mark)
      rw [Char.ofNat_toNat] at code
      exact code holds
  | false => exact isWordChar_of_not_mark mark

theorem isWordChar_of_afterNumber {s rest : List Char}
    (is : SemanticVersion.afterNumber? s = some rest)
    (others : ∀ c ∈ rest, Token.IsWordChar c) : ∀ c ∈ s, Token.IsWordChar c := by
  unfold SemanticVersion.afterNumber? at is
  split at is
  · cases is
    rw [← List.takeWhile_append_dropWhile (p := Unicode.isDecimalDigit) (l := s)]
    refine List.forall_mem_append.2 ⟨fun c inside => ?_, others⟩
    refine isWordChar_of_table (p := Unicode.isDecimalDigit) (by decide) ?_
    exact List.all_eq_true.1 List.all_takeWhile c inside
  · cases is

theorem isWordChar_of_afterDot {s rest : List Char} (is : SemanticVersion.afterDot? s = some rest)
    (others : ∀ c ∈ rest, Token.IsWordChar c) : ∀ c ∈ s, Token.IsWordChar c := by
  unfold SemanticVersion.afterDot? at is
  split at is
  · cases is
    exact List.forall_mem_cons.2 ⟨by decide, others⟩
  · cases is

theorem isWordChar_of_isTagChar {c : Char} (tag : SemanticVersion.isTagChar c = true) :
    Token.IsWordChar c :=
  isWordChar_of_table (p := SemanticVersion.isTagChar) (by decide) tag

theorem isWordChar_of_isBuild {s : List Char} (build : SemanticVersion.isBuild s = true) :
    ∀ c ∈ s, Token.IsWordChar c := by
  unfold SemanticVersion.isBuild at build
  split at build
  · exact fun c h => nomatch h
  · rw [SemanticVersion.isTag, Bool.and_eq_true, List.all_eq_true] at build
    exact List.forall_mem_cons.2 ⟨by decide, fun c inside =>
      isWordChar_of_isTagChar (build.2 c inside)⟩
  · cases build

theorem isWordChar_of_isSuffix {s : List Char} (suffix : SemanticVersion.isSuffix s = true) :
    ∀ c ∈ s, Token.IsWordChar c := by
  unfold SemanticVersion.isSuffix at suffix
  split at suffix
  · rename_i rest
    rw [Bool.and_eq_true] at suffix
    rw [← List.takeWhile_append_dropWhile (p := SemanticVersion.isTagChar) (l := rest)]
    refine List.forall_mem_cons.2 ⟨by decide, List.forall_mem_append.2 ⟨fun c inside => ?_,
      isWordChar_of_isBuild suffix.2⟩⟩
    exact isWordChar_of_isTagChar (List.all_eq_true.1 List.all_takeWhile c inside)
  · exact isWordChar_of_isBuild suffix

/-- A semantic version is one word. -/
theorem isWordChar_of_isValid {version : String} (valid : SemanticVersion.isValid version = true) :
    ∀ c ∈ version.toList, Token.IsWordChar c := by
  unfold SemanticVersion.isValid at valid
  obtain ⟨rest, is, suffix⟩ := (Option.any_eq_true _ _).1 valid
  obtain ⟨afterMajor, major, is⟩ := Option.bind_eq_some_iff.1 is
  obtain ⟨minorOn, dot, is⟩ := Option.bind_eq_some_iff.1 is
  obtain ⟨afterMinor, minor, is⟩ := Option.bind_eq_some_iff.1 is
  obtain ⟨patchOn, dot', patch⟩ := Option.bind_eq_some_iff.1 is
  have solid := isWordChar_of_afterNumber patch (isWordChar_of_isSuffix suffix)
  have solid := isWordChar_of_afterNumber minor (isWordChar_of_afterDot dot' solid)
  exact isWordChar_of_afterNumber major (isWordChar_of_afterDot dot solid)

/-- A version is read back. -/
theorem parse_version {version : String} (used : Directive.version.isUsedIn place = true)
    (valid : SemanticVersion.isValid version = true) (filled : version.toList ≠ []) :
    standard.parse ("PROMPTBOOK VERSION " ++ version) place = .ok (.version version) := by
  have isWord := isWordChar_of_isValid valid
  refine (parse_phrase_iff version isPhrase_version (by simp) (trimmed_of_solid isWord)
    filled).2 ⟨isLine_of_solid isWord, used, ?_⟩
  dsimp only [Directive.version]
  exact Directive.Version.parse_ok_iff.2 ⟨version, words_of_solid _ isWord filled, valid, rfl⟩

/-! ## Names between braces -/

/-- A name between braces is one word. -/
theorem isWordChar_of_braced {name : String} (plain : ∀ c ∈ name.toList, Name.isMark c = false) :
    ∀ c ∈ (braced name).toList, Token.IsWordChar c := by
  have toList : (braced name).toList = '\x7b' :: (name.toList ++ ['\x7d']) := by simp [braced]
  rw [toList]
  refine List.forall_mem_cons.2 ⟨by decide, ?_⟩
  refine List.forall_mem_append.2 ⟨fun c inside => ?_, by decide⟩
  exact isWordChar_of_not_mark (plain c inside)

theorem braced_ne_nil (name : String) : (braced name).toList ≠ [] := by simp [braced]

/-- No keyword absorbs a name between braces. -/
theorem absorbed_braced (name : String) (others : List String) :
    absorbed (braced name :: others) = 0 := by
  rw [absorbed, if_neg]
  intro blank
  exact absurd (blank '\x7b' (by simp [braced])) (by decide)

/-- A joker is read back if its name is in camel case. -/
theorem parse_joker_iff {raw name : String} (used : Directive.joker.isUsedIn place = true)
    (valid : Name.validate raw = .ok name) :
    standard.parse ("JOKER " ++ braced name) place = .ok (.joker name)
      ↔ Name.camelCase name = name := by
  have plain := Name.not_mark_of_validate valid
  have isWord := isWordChar_of_braced plain
  obtain ⟨-, -, filled, free⟩ := Name.validate_ok_iff.1 valid
  have words : (argumentsOf "JOKER" (braced name) 0).words = [braced name] :=
    words_of_solid _ isWord (braced_ne_nil name)
  have kept : Kept (braced name) := by
    rw [words_argumentsOf, List.drop_zero] at words
    rw [Kept, words, absorbed_braced]
  rw [parse_word_iff "JOKER" (braced name) (isWord_of_mem (by decide) rfl) (by simp)
    (trimmed_of_solid isWord) (braced_ne_nil name),
    and_iff_right (isLine_of_solid isWord), and_iff_right used, kept]
  dsimp only [Directive.joker]
  rw [Directive.Joker.parse_ok_iff, words]
  constructor
  · rintro ⟨_, _, ⟨⟩, read, ⟨⟩⟩
    exact ((Name.validate_braced_iff plain).1 read).1
  · intro stable
    exact ⟨_, _, rfl, (Name.validate_braced_iff plain).2 ⟨stable, filled, free⟩, rfl⟩

/-- What the line of a parameter has behind the keyword. -/
def parameterSource (name : String) (description : Option String) : String :=
  braced name ++ (description.map (" " ++ ·)).getD ""

/-- The words behind the keyword of a parameter and the description that they give. -/
theorem words_parameterSource (keyword : String) {name : String} {description : Option String}
    (plain : ∀ c ∈ name.toList, Name.isMark c = false)
    (described : ∀ d ∈ description, Token.IsSource d.toList) :
    (∃ others, (argumentsOf keyword (parameterSource name description) 0).words
        = braced name :: others)
      ∧ Directive.described
          ((argumentsOf keyword (parameterSource name description) 0).sourceFrom 1)
        = description := by
  have isWord := isWordChar_of_braced plain
  cases description with
  | none =>
      have is : parameterSource name none = braced name := String.append_empty
      have words : (argumentsOf keyword (braced name) 0).words = [braced name] :=
        words_of_solid _ isWord (braced_ne_nil name)
      rw [is]
      refine ⟨⟨[], words⟩, ?_⟩
      have noSecond : (argumentsOf keyword (braced name) 0).tokens[1]? = none := by
        rw [Arguments.words, List.map_eq_singleton_iff] at words
        obtain ⟨t, only, -⟩ := words
        rw [only]
        rfl
      rw [Arguments.sourceFrom, noSecond]
      rfl
  | some text =>
      have isSource := described text rfl
      have is : (parameterSource name (some text)).toList
          = (braced name).toList ++ ' ' :: text.toList := by
        simp [parameterSource]
      obtain ⟨words, source⟩ := sourceFrom_behind keyword isWord (braced_ne_nil name) isSource is
      refine ⟨⟨_, words⟩, ?_⟩
      rw [source, Directive.described, if_neg]
      simpa using isSource.ne_nil

theorem parameterSource_ne_nil (name : String) (description : Option String) :
    (parameterSource name description).toList ≠ [] := by
  simp [parameterSource, braced]

theorem trimmed_parameterSource {name : String} {description : Option String}
    (plain : ∀ c ∈ name.toList, Name.isMark c = false)
    (described : ∀ d ∈ description, Token.IsSource d.toList) :
    Text.Trimmed isBlank (parameterSource name description).toList := by
  have isWord := isWordChar_of_braced plain
  cases description with
  | none =>
      have is : parameterSource name none = braced name := String.append_empty
      rw [is]
      exact trimmed_of_solid isWord
  | some text =>
      have isSource := described text rfl
      have is : (parameterSource name (some text)).toList
          = (braced name).toList ++ [' '] ++ text.toList := by
        simp [parameterSource]
      rw [is]
      exact (trimmed_of_solid isWord).append isSource.trimmed _ (braced_ne_nil name) isSource.ne_nil

theorem isLine_parameterSource {name : String} {description : Option String}
    (plain : ∀ c ∈ name.toList, Name.isMark c = false)
    (described : ∀ d ∈ description, IsLine d.toList) :
    IsLine (parameterSource name description).toList := by
  have isWord := isWordChar_of_braced plain
  rw [parameterSource, String.toList_append, isLine_append (isLine_of_solid isWord)]
  cases description with
  | none => decide
  | some text =>
      have is : ((some text).map (" " ++ ·)).getD "" = " " ++ text := rfl
      rw [is, String.toList_append, isLine_append (by decide)]
      exact described text rfl

/-- What the directive reads from such a source. -/
theorem read_parameter_iff {keyword raw name : String} {description : Option String}
    {isInput isOutput : Bool} (valid : Name.validate raw = .ok name)
    (described : ∀ d ∈ description, Token.IsSource d.toList)
    (input : Text.startsWith "INPUT" keyword = isInput)
    (output : Text.startsWith "OUTPUT" keyword = isOutput) :
    Directive.Parameter.parse (argumentsOf keyword (parameterSource name description) 0)
        = .ok (.parameter name description isInput isOutput)
      ↔ Name.camelCase name = name := by
  have plain := Name.not_mark_of_validate valid
  obtain ⟨-, -, filled, free⟩ := Name.validate_ok_iff.1 valid
  obtain ⟨⟨others, words⟩, source⟩ :=
    words_parameterSource keyword plain described
  rw [Directive.Parameter.parse_ok_iff, words, source]
  subst input output
  constructor
  · rintro ⟨_, _, _, ⟨⟩, read, ⟨⟩⟩
    exact ((Name.validate_braced_iff plain).1 read).1
  · intro stable
    exact ⟨_, _, _, rfl, (Name.validate_braced_iff plain).2 ⟨stable, filled, free⟩, rfl⟩

/-- A parameter is read back if its name is in camel case, whatever keyword it has. -/
theorem parse_parameter_iff {raw name line : String} {description : Option String}
    {isInput isOutput : Bool} (used : Directive.parameter.isUsedIn place = true)
    (valid : Name.validate raw = .ok name)
    (described : ∀ d ∈ description, Token.IsSource d.toList ∧ IsLine d.toList)
    (written : Directive.Parameter.write (.parameter name description isInput isOutput)
      = .ok line) :
    standard.parse line place = .ok (.parameter name description isInput isOutput)
      ↔ Name.camelCase name = name := by
  have plain := Name.not_mark_of_validate valid
  have isSource : ∀ d ∈ description, Token.IsSource d.toList := fun d is => (described d is).1
  have trimmed := trimmed_parameterSource plain isSource
  have isLine := isLine_parameterSource plain fun d is => (described d is).2
  have filled := parameterSource_ne_nil name description
  have kept : Kept (parameterSource name description) := by
    obtain ⟨⟨others, words⟩, -⟩ := words_parameterSource "PARAMETER" plain isSource
    rw [words_argumentsOf, List.drop_zero] at words
    rw [Kept, words, absorbed_braced]
  dsimp only [Directive.Parameter.write] at written
  split at written
  · cases written
  · rename_i notBoth
    cases written
    cases isInput with
    | true =>
        obtain rfl : isOutput = false := by simpa using notBoth
        refine (parse_phrase_iff (parameterSource name description) isPhrase_input
          (by simp [parameterSource]) trimmed filled).trans ?_
        rw [and_iff_right isLine, and_iff_right used]
        exact read_parameter_iff valid isSource (by decide) (by decide)
    | false =>
        cases isOutput with
        | true =>
            refine (parse_phrase_iff (parameterSource name description) isPhrase_output
              (by simp [parameterSource]) trimmed filled).trans ?_
            rw [and_iff_right isLine, and_iff_right used]
            exact read_parameter_iff valid isSource (by decide) (by decide)
        | false =>
            rw [parse_word_iff "PARAMETER" (parameterSource name description)
              (isWord_of_mem (by decide) rfl) (by simp [parameterSource]) trimmed filled,
              and_iff_right isLine, and_iff_right used, kept]
            exact read_parameter_iff valid isSource (by decide) (by decide)

/-! ## Closed vocabularies -/

/-- An execution is read back. -/
theorem parse_execute {execution : Execution} (used : Directive.execute.isUsedIn place = true) :
    standard.parse ("EXECUTE " ++ execution.capitals) place = .ok (.execute execution) := by
  have kept : Kept execution.capitals := by cases execution <;> decide
  have named : Execution.ofKeyword?
      (Text.join " " (argumentsOf "EXECUTE" execution.capitals 0).words) = some execution := by
    cases execution <;> decide
  refine (parse_word_iff "EXECUTE" execution.capitals (isWord_of_mem (by decide) rfl) (by simp)
    ?_ ?_).2 ⟨?_, used, ?_⟩
  · cases execution <;> simp [Execution.capitals, Text.Trimmed] <;> decide
  · cases execution <;> decide
  · cases execution <;> decide
  · rw [kept]
    dsimp only [Directive.execute]
    exact Directive.Execute.parse_ok_iff.2 ⟨execution, named, rfl⟩

/-- A demand for a variant is read back. -/
theorem parse_variant {variant : ModelVariant} (used : Directive.model.isUsedIn place = true) :
    standard.parse ("MODEL VARIANT " ++ variant.title) place
      = .ok (.model .variant variant.word) := by
  have kept : Kept ("VARIANT " ++ variant.title) := by cases variant <;> decide
  have words : (argumentsOf "MODEL" ("VARIANT " ++ variant.title) 0).words
      = ["VARIANT", variant.title] := by
    cases variant <;> decide
  have named : ModelVariant.ofKeyword? (Text.join " " [variant.title]) = some variant := by
    cases variant <;> decide
  have key : Unicode.upperText "VARIANT" = "VARIANT" := by decide
  refine (parse_word_iff "MODEL" ("VARIANT " ++ variant.title) (isWord_of_mem (by decide) rfl)
    (by simp) ?_ ?_).2 ⟨?_, used, ?_⟩
  · cases variant <;> simp [ModelVariant.title, Text.Trimmed] <;> decide
  · cases variant <;> decide
  · cases variant <;> decide
  · rw [kept]
    dsimp only [Directive.model]
    exact Directive.Model.parse_ok_iff.2 (.inl ⟨_, _, variant, words, key, named, rfl⟩)

/-- A demand for a name is read back, for the name is written between backticks. -/
theorem parse_modelName {name : String} (used : Directive.model.isUsedIn place = true)
    (filled : name.toList ≠ []) (noTick : '`' ∉ name.toList) (isLine : IsLine name.toList) :
    standard.parse ("MODEL NAME `" ++ name ++ "`") place = .ok (.model .name name) := by
  have shape : ("NAME `" ++ name ++ "`").toList
      = "NAME".toList ++ ' ' :: ('`' :: (name.toList ++ ['`'])) := by
    simp
  have texts : (Token.ofLine ("NAME `" ++ name ++ "`")).map (·.text) = ["NAME", name] := by
    rw [Token.ofLine_eq, shape, Token.ofChars,
      Token.scan_word_gap (by decide) (by decide) (by decide), Token.scan_quoted noTick filled]
    simp
  have kept : Kept ("NAME `" ++ name ++ "`") := by
    rw [Kept, texts]
    rfl
  have key : Unicode.upperText "NAME" = "NAME" := by decide
  refine (parse_word_iff "MODEL" ("NAME `" ++ name ++ "`") (isWord_of_mem (by decide) rfl)
    (by simp) ?_ (by simp)).2 ⟨?_, used, ?_⟩
  · have ends : ("NAME `" ++ name ++ "`").toList
        = "NAME".toList ++ (" `".toList ++ name.toList) ++ ['`'] := by
      simp
    rw [ends]
    exact (trimmed_of_solid (by decide)).append (s := "NAME".toList) ⟨by decide, by decide⟩ _
      (by decide) (by decide)
  · rw [String.toList_append, String.toList_append, List.append_assoc, isLine_append (by decide),
      isLine_append isLine]
    decide
  · rw [kept]
    dsimp only [Directive.model]
    refine Directive.Model.parse_ok_iff.2 (.inr ⟨_, name, ?_, key, rfl⟩)
    rw [words_argumentsOf, texts, List.drop_zero]

/-! ## Expectations -/

theorem isWordChar_of_isDigit {c : Char} (digit : c.isDigit = true) : Token.IsWordChar c :=
  isWordChar_of_table (p := Char.isDigit) (by decide) digit

/-- The amount that digits spell. -/
theorem amount?_of_digits {word : String} (filled : word.toList ≠ [])
    (digits : ∀ c ∈ word.toList, c.isDigit = true)
    (fits : word.toList.foldl (fun n c => n * 10 + (c.toNat - '0'.toNat)) 0 < UInt32.size) :
    Directive.Expect.amount? word
      = some (UInt32.ofNat (word.toList.foldl (fun n c => n * 10 + (c.toNat - '0'.toNat)) 0)) := by
  have allDigits : ¬(word.toList.isEmpty || !word.toList.all Char.isDigit) = true := by
    simpa [filled] using digits
  unfold Directive.Expect.amount?
  dsimp only
  split
  · rename_i signed
    have digit := digits '+' (signed ▸ List.mem_cons_self)
    exact absurd digit (by decide)
  · rw [if_neg allDigits, if_pos fits]

/-- An amount that is written in decimal is read back. -/
theorem amount?_toString (amount : UInt32) :
    Directive.Expect.amount? (toString amount.toNat) = some amount := by
  have is : (toString amount.toNat).toList = Nat.toDigits 10 amount.toNat := by
    rw [Nat.toString_eq_ofList_toDigits, String.toList_ofList]
  have value : (Nat.toDigits 10 amount.toNat).foldl (fun n c => n * 10 + (c.toNat - '0'.toNat)) 0
      = amount.toNat := by
    have read := Nat.ofDigitChars_ten_toDigits (n := amount.toNat)
    rw [Nat.ofDigitChars_eq_foldl] at read
    simpa only [Nat.mul_comm] using read
  rw [amount?_of_digits (by rw [is]; exact Nat.toDigits_ne_nil) (fun c inside => ?_), is, value,
    UInt32.ofNat_toNat]
  · rw [is, value]
    exact amount.toNat_lt
  · rw [is] at inside
    exact Nat.isDigit_of_mem_toDigits (by decide) (by decide) inside

/-- The digits of an amount are one word. -/
theorem isWordChar_of_toString (amount : UInt32) :
    (∀ c ∈ (toString amount.toNat).toList, Token.IsWordChar c)
      ∧ (toString amount.toNat).toList ≠ [] := by
  rw [Nat.toString_eq_ofList_toDigits, String.toList_ofList]
  refine ⟨fun c inside => ?_, Nat.toDigits_ne_nil⟩
  exact isWordChar_of_isDigit (Nat.isDigit_of_mem_toDigits (by decide) (by decide) inside)

/-- Three words as a source. -/
theorem source_of_three {first second third : String}
    (solid : ∀ c ∈ first.toList, Token.IsWordChar c) (filled : first.toList ≠ [])
    (solid' : ∀ c ∈ second.toList, Token.IsWordChar c) (filled' : second.toList ≠ [])
    (solid'' : ∀ c ∈ third.toList, Token.IsWordChar c) (filled'' : third.toList ≠ []) :
    (Token.ofLine (first ++ " " ++ second ++ " " ++ third)).map (·.text) = [first, second, third]
      ∧ Text.Trimmed isBlank (first ++ " " ++ second ++ " " ++ third).toList
      ∧ IsLine (first ++ " " ++ second ++ " " ++ third).toList := by
  have shape : (first ++ " " ++ second ++ " " ++ third).toList
      = first.toList ++ ' ' :: (second.toList ++ ' ' :: third.toList) := by
    simp
  have ends : (first ++ " " ++ second ++ " " ++ third).toList
      = first.toList ++ (" " ++ second ++ " ").toList ++ third.toList := by
    simp
  refine ⟨?_, ?_, ?_⟩
  · rw [Token.ofLine_eq, shape, Token.ofChars, Token.scan_word_gap solid filled (by decide),
      Token.scan_word_gap solid' filled' (by decide), Token.scan_word solid'' filled'']
    simp
  · rw [ends]
    exact (trimmed_of_solid solid).append (trimmed_of_solid solid'') _ filled filled''
  · simp only [String.toList_append]
    refine (isLine_append ?_).2 (isLine_of_solid solid'')
    refine (isLine_append ?_).2 (by decide)
    refine (isLine_append ?_).2 (isLine_of_solid solid')
    exact (isLine_append (isLine_of_solid solid)).2 (by decide)

/-- An expectation of an amount is read back. -/
theorem parse_expectAmount {sign : BoundSign} {unit : AmountUnit} {amount : UInt32}
    (used : Directive.expect.isUsedIn place = true) :
    standard.parse
        ("EXPECT " ++ sign.word ++ " " ++ toString amount.toNat ++ " " ++ unit.word) place
      = .ok (.expectAmount sign unit amount) := by
  have signWord : (∀ c ∈ sign.word.toList, Token.IsWordChar c) ∧ sign.word.toList ≠ []
      ∧ absorbed [sign.word] = 0 ∧ BoundSign.ofKeyword? sign.word = some sign := by
    cases sign <;> decide
  have unitWord : (∀ c ∈ unit.word.toList, Token.IsWordChar c) ∧ unit.word.toList ≠ []
      ∧ AmountUnit.ofKeyword? unit.word = some unit := by
    cases unit <;> decide
  obtain ⟨signSolid, signFilled, signKept, signed⟩ := signWord
  obtain ⟨unitSolid, unitFilled, measured⟩ := unitWord
  obtain ⟨amountSolid, amountFilled⟩ := isWordChar_of_toString amount
  have counted := amount?_toString amount
  -- Nothing else matters of the digits than that they are a word.
  generalize toString amount.toNat = digits at amountSolid amountFilled counted ⊢
  obtain ⟨texts, trimmed, isLine⟩ :=
    source_of_three signSolid signFilled amountSolid amountFilled unitSolid unitFilled
  have kept : Kept (sign.word ++ " " ++ digits ++ " " ++ unit.word) := by
    rw [Kept, texts]
    exact signKept
  refine (parse_word_iff "EXPECT" (sign.word ++ " " ++ digits ++ " " ++ unit.word)
    (isWord_of_mem (by decide) rfl) (by simp) trimmed (by simp)).2 ⟨isLine, used, ?_⟩
  rw [kept]
  dsimp only [Directive.expect]
  refine Directive.Expect.parse_ok_iff.2
    (.inr ⟨_, digits, _, sign, amount, unit, ?_, signed, counted, measured, rfl⟩)
  rw [words_argumentsOf, texts, List.drop_zero]

/-- An expectation of a format is read back. -/
theorem parse_expectFormat {format : ResultFormat} (used : Directive.expect.isUsedIn place = true) :
    standard.parse ("EXPECT " ++ format.word) place = .ok (.expectFormat format) := by
  obtain rfl : format = .json := by cases format; rfl
  have solid : ∀ c ∈ ResultFormat.json.word.toList, Token.IsWordChar c := by decide
  have kept : Kept ResultFormat.json.word := by decide
  refine (parse_word_iff "EXPECT" ResultFormat.json.word (isWord_of_mem (by decide) rfl)
    (by simp) (trimmed_of_solid solid) (by decide)).2 ⟨isLine_of_solid solid, used, ?_⟩
  rw [kept]
  dsimp only [Directive.expect]
  exact Directive.Expect.parse_ok_iff.2
    (.inl ⟨_, words_of_solid _ solid (by decide), by decide, rfl⟩)

/-! ## Functions -/

theorem isWordChar_of_isFunctionName {s : List Char}
    (valid : Directive.Postprocess.isFunctionName s = true) : ∀ c ∈ s, Token.IsWordChar c := by
  have start {c : Char} (is : Directive.Postprocess.isFunctionStart c = true) :
      Token.IsWordChar c :=
    isWordChar_of_table (p := Directive.Postprocess.isFunctionStart) (by decide) is
  cases s with
  | nil => cases valid
  | cons c s =>
      rw [Directive.Postprocess.isFunctionName, Bool.and_eq_true, List.all_eq_true] at valid
      refine List.forall_mem_cons.2 ⟨start valid.1, fun d inside => ?_⟩
      exact (Bool.or_eq_true_iff.1 (valid.2 d inside)).elim start isWordChar_of_isDigit

/-- A function is read back if it is not made of underscores. -/
theorem parse_postprocess_iff {function : String}
    (used : Directive.postprocess.isUsedIn place = true)
    (valid : Directive.Postprocess.isFunctionName function.toList = true) :
    standard.parse ("POSTPROCESS `" ++ function ++ "`") place = .ok (.postprocess function)
      ↔ ∃ c ∈ function.toList, c ≠ '_' := by
  have isWord := isWordChar_of_isFunctionName valid
  have filled : function.toList ≠ [] := by
    intro none
    rw [none] at valid
    cases valid
  have noTick : '`' ∉ function.toList := fun inside => (isWord _ inside).1 rfl
  have shape : ("`" ++ function ++ "`").toList = '`' :: (function.toList ++ ['`']) := by simp
  have texts : (Token.ofLine ("`" ++ function ++ "`")).map (·.text) = [function] := by
    rw [Token.ofLine_eq, shape, Token.ofChars, Token.scan_quoted noTick filled]
    simp
  have trimmed : Text.Trimmed isBlank ("`" ++ function ++ "`").toList := by
    rw [shape, ← List.singleton_append, ← List.append_assoc]
    exact Text.Trimmed.append ⟨by decide, by decide⟩ ⟨by decide, by decide⟩ _
      (by decide) (by decide)
  have isLine : IsLine ("`" ++ function ++ "`").toList := by
    rw [shape, ← List.singleton_append, isLine_append (by decide),
      isLine_append (isLine_of_solid isWord)]
    decide
  have separates : (∀ c ∈ function.toList, Keyword.isSeparator c = true)
      ↔ ¬∃ c ∈ function.toList, c ≠ '_' := by
    simp only [not_exists, not_and, not_not]
    refine forall₂_congr fun c inside => ?_
    rw [Keyword.isSeparator, (isWord c inside).2, Bool.false_or, beq_iff_eq]
  rw [parse_word_iff "POSTPROCESS" ("`" ++ function ++ "`") (isWord_of_mem (by decide) rfl)
    (by simp) trimmed (by simp), and_iff_right isLine,
    and_iff_right used]
  dsimp only [Directive.postprocess]
  rw [Directive.Postprocess.parse_ok_iff, words_argumentsOf, texts, absorbed]
  constructor
  · rintro ⟨_, said, -, ⟨⟩⟩
    by_contra blank
    rw [if_pos (separates.2 blank)] at said
    cases said
  · intro solid
    rw [if_neg fun blank => separates.1 blank solid]
    exact ⟨function, rfl, valid, rfl⟩

end PromptPipeline.Grammar
