/-
# Proofs.Grammar.Arguments -- what a directive is given of a line

What a directive reads says which directive that was (`exists_arguments`).

The source of an argument starts with the token of this argument and has the tokens
behind it (`source_of_getElem?`), wherever it stood.  So a line that is made of a keyword
and a source is read as this source alone (`parse_word_iff`, `parse_phrase_iff`).
-/
import PromptPipeline.Proofs.Grammar.Keyword
import PromptPipeline.Proofs.Grammar.Reading
import PromptPipeline.Proofs.Markdown.Lines
import PromptPipeline.Proofs.Text.Trim

namespace PromptPipeline.Grammar

set_option autoImplicit false

open Markdown (IsLine)
open Unicode (isBlank)

/-! ## Sources -/

namespace Token

/-- A text that starts with its first token and does not end with a blank. -/
structure IsSource (s : List Char) : Prop where
  trimmed : Text.Trimmed isBlank s
  starts : ∃ t after, ofChars s = t :: after ∧ t.start = 0

theorem IsSource.ne_nil {s : List Char} (isSource : IsSource s) : s ≠ [] := by
  rintro rfl
  obtain ⟨t, after, is, -⟩ := isSource.starts
  cases is

/-- A trimmed text that does not start with a backtick starts with its first token. -/
theorem isSource_of_head {c : Char} {s : List Char} (noTick : c ≠ '`')
    (trimmed : Text.Trimmed isBlank (c :: s)) : IsSource (c :: s) := by
  obtain ⟨more, after, is⟩ := exists_first 0 s ⟨noTick, trimmed.1 c rfl⟩
  exact ⟨trimmed, _, after, is, rfl⟩

/-- **From the start of a token on, a trimmed line is a source that has this token and
those behind it.** -/
theorem source_of_getElem? {s : List Char} (trimmed : Text.Trimmed isBlank s) {i : Nat} {t : Token}
    (there : (ofChars s)[i]? = some t) :
    IsSource (s.drop t.start)
      ∧ (ofChars (s.drop t.start)).map (·.text) = ((ofChars s).drop i).map (·.text) := by
  obtain ⟨inside, is⟩ := List.getElem?_eq_some_iff.1 there
  have behind : (ofChars s).drop i = t :: (ofChars s).drop (i + 1) := by
    rw [List.drop_eq_getElem_cons inside, is]
  have split : ofChars s = (ofChars s).take i ++ t :: (ofChars s).drop (i + 1) := by
    rw [← behind, List.take_append_drop]
  obtain ⟨moved, head⟩ := restart split
  obtain ⟨first, others, isFirst⟩ : ∃ first others, ofChars (s.drop t.start) = first :: others := by
    cases tokens : ofChars (s.drop t.start) with
    | nil =>
        rw [tokens] at moved
        cases moved
    | cons first others => exact ⟨first, others, rfl⟩
  refine ⟨⟨⟨head, fun c last => ?_⟩, first, others, isFirst, ?_⟩, ?_⟩
  · refine trimmed.2 c ?_
    obtain ⟨front, last⟩ := List.getLast?_eq_some_iff.1 last
    rw [← List.take_append_drop t.start s, last]
    simp
  · rw [isFirst] at moved
    have start := congrArg Token.start (List.cons.inj moved).1
    rw [shift_start] at start
    omega
  · rw [behind, ← moved, List.map_map]
    rfl

end Token

/-! ## Commands -/

/-- **A command is read from its line by its own directive.** -/
theorem exists_arguments {line : String} {place : Place} {c : Command}
    (parsed : standard.parse line place = .ok c) :
    IsLine line.toList ∧ (owner c.kind).isUsedIn place = true
      ∧ ∃ keyword skipped, keywordTable.lookup keyword = some (owner c.kind)
        ∧ (owner c.kind).parse (argumentsOf keyword (Text.trim line) skipped) = .ok c := by
  obtain ⟨isLine, found, matched, used, read⟩ := parse_ok_iff.1 parsed
  have owned := matchUpTo_directive matched
  have is := owner_of_parse (mem_of_lookup build_catalog owned) read
  rw [is] at used read
  rw [is, keywords_standard] at owned
  exact ⟨isLine, used, found.keyword, found.consumed, owned, read⟩

/-! ## Arguments -/

variable {keyword line : String} {skipped : Nat}

theorem words_argumentsOf :
    (argumentsOf keyword line skipped).words = ((Token.ofLine line).map (·.text)).drop skipped :=
  List.map_drop

theorem exists_token {word : String} (member : word ∈ (argumentsOf keyword line skipped).words) :
    ∃ t ∈ Token.ofChars line.toList, t.text = word := by
  rw [words_argumentsOf] at member
  exact List.mem_map.1 (List.mem_of_mem_drop member)

/-- **A word has characters of the line, at least one and no backtick.** -/
theorem text_of_word {word : String} (member : word ∈ (argumentsOf keyword line skipped).words) :
    word.toList ≠ [] ∧ '`' ∉ word.toList ∧ ∀ c ∈ word.toList, c ∈ line.toList := by
  obtain ⟨t, inside, rfl⟩ := exists_token member
  obtain ⟨filled, noTick, known⟩ := Token.text_of_mem inside List.not_mem_nil
  exact ⟨filled, noTick, fun c there => (known c there).resolve_left List.not_mem_nil⟩

/-- The words of a line without backticks have no blanks. -/
theorem solid_of_word {word : String} (noTick : '`' ∉ line.toList)
    (member : word ∈ (argumentsOf keyword line skipped).words) :
    ∀ c ∈ word.toList, Token.IsWordChar c := by
  obtain ⟨t, inside, is⟩ := exists_token member
  have solid := Token.not_blank_of_mem inside noTick fun _ h => nomatch h
  rw [is] at solid
  exact fun c there => ⟨fun tick => (text_of_word member).2.1 (tick ▸ there), solid c there⟩

/-- **The source of an argument is the rest of the line from its token on**, and has this
word and those behind it. -/
theorem source_argumentsOf (trimmed : Text.Trimmed isBlank line.toList) (index : Nat)
    {word : String}
    (there : (argumentsOf keyword line skipped).words[index]? = some word) :
    ∃ t, (Token.ofLine line)[skipped + index]? = some t
      ∧ ((argumentsOf keyword line skipped).sourceFrom index).toList = line.toList.drop t.start
      ∧ Token.IsSource (line.toList.drop t.start)
      ∧ (Token.ofChars (line.toList.drop t.start)).map (·.text)
        = (argumentsOf keyword line skipped).words.drop index := by
  unfold Arguments.words at there
  rw [List.getElem?_map] at there
  obtain ⟨t, here, rfl⟩ := Option.map_eq_some_iff.1 there
  have inLine : (Token.ofChars line.toList)[skipped + index]? = some t := by
    rw [← List.getElem?_drop]
    exact here
  obtain ⟨isSource, texts⟩ := Token.source_of_getElem? trimmed inLine
  refine ⟨t, inLine, ?_, isSource, ?_⟩
  · unfold Arguments.sourceFrom
    rw [here]
    dsimp only
    rw [Text.toList_trim, String.toList_ofList]
    exact Text.strip_eq_self isSource.trimmed
  · rw [texts, words_argumentsOf, List.drop_drop, List.map_drop]
    rfl

/-- Without an argument there is no source. -/
theorem sourceFrom_of_none {a : Arguments} {index : Nat} (missing : a.words[index]? = none) :
    a.sourceFrom index = "" := by
  rw [Arguments.words, List.getElem?_map, Option.map_eq_none_iff] at missing
  rw [Arguments.sourceFrom, missing]

/-- A source is the source of its first argument. -/
theorem sourceFrom_of_isSource (isSource : Token.IsSource line.toList) :
    (argumentsOf keyword line 0).sourceFrom 0 = line := by
  obtain ⟨t, after, is, start⟩ := isSource.starts
  have first : (argumentsOf keyword line 0).tokens[0]? = some t := by
    change (Token.ofChars line.toList)[0]? = some t
    rw [is]
    rfl
  unfold Arguments.sourceFrom
  rw [first]
  dsimp only
  rw [start, List.drop_zero]
  change Text.trim (String.ofList line.toList) = line
  rw [String.ofList_toList, Text.trim_eq_self_iff]
  exact isSource.trimmed

/-- A text without blanks and backticks is one word. -/
theorem words_of_solid (keyword : String) (solid : ∀ c ∈ line.toList, Token.IsWordChar c)
    (filled : line.toList ≠ []) :
    (argumentsOf keyword line 0).words = [line] := by
  rw [words_argumentsOf, Token.ofLine_eq, Token.ofChars, Token.scan_word solid filled]
  simp

/-! ## Lines that are made of a keyword and a source -/

/-- Where a source stands makes no difference. -/
theorem alike_argumentsOf (keyword : String) {line source : String} {lead : List Char}
    (is : line.toList = lead ++ source.toList) (skipped : Nat) :
    Directive.Alike
      ⟨line, keyword, ((Token.ofLine source).map (Token.shift lead.length)).drop skipped⟩
      (argumentsOf keyword source skipped) where
  keyword := rfl
  words := by simp [Arguments.words, argumentsOf, Function.comp_def]
  source index := by
    unfold Arguments.sourceFrom argumentsOf
    rw [← List.map_drop, List.getElem?_map]
    cases ((Token.ofLine source).drop skipped)[index]? with
    | none => rfl
    | some t =>
        dsimp only [Option.map_some, Token.shift_start]
        rw [is, Nat.add_comm, List.drop_length_add_append]

/-- The tokens of a word and a source behind it. -/
theorem ofLine_of_word {word source line : String} (solid : ∀ c ∈ word.toList, Token.IsWordChar c)
    (filled : word.toList ≠ []) (is : line.toList = word.toList ++ ' ' :: source.toList) :
    Token.ofLine line
      = ⟨word, 0⟩ :: (Token.ofLine source).map (Token.shift (word.toList ++ [' ']).length) := by
  rw [Token.ofLine_eq, is, Token.ofChars, Token.scan_word_gap solid filled (by decide),
    Token.scan_eq_map_shift, String.ofList_toList, Nat.zero_add, List.length_append]
  rfl

/-- Behind a word and a space stands the source of the second argument. -/
theorem sourceFrom_behind (keyword : String) {word source line : String}
    (solid : ∀ c ∈ word.toList, Token.IsWordChar c) (filled : word.toList ≠ [])
    (isSource : Token.IsSource source.toList)
    (is : line.toList = word.toList ++ ' ' :: source.toList) :
    (argumentsOf keyword line 0).words = word :: (Token.ofLine source).map (·.text)
      ∧ (argumentsOf keyword line 0).sourceFrom 1 = source := by
  have shape : line.toList = (word.toList ++ [' ']) ++ source.toList := by
    rw [is, List.append_assoc]
    rfl
  have tokens := ofLine_of_word solid filled is
  constructor
  · rw [words_argumentsOf, tokens, List.drop_zero, List.map_cons, List.map_map]
    rfl
  · have there := (alike_argumentsOf keyword shape 0).source 0
    rw [sourceFrom_of_isSource isSource] at there
    rw [argumentsOf, tokens]
    exact there

theorem isLine_append {lead source : List Char} (isLine : IsLine lead) :
    IsLine (lead ++ source) ↔ IsLine source := by
  simp [IsLine, isLine.1, isLine.2]

theorem isLine_of_solid {word : List Char} (solid : ∀ c ∈ word, Token.IsWordChar c) :
    IsLine word := by
  constructor
  · exact fun inside => absurd (solid _ inside).2 (by decide)
  · exact fun inside => absurd (solid _ inside).2 (by decide)

theorem trimmed_of_solid {word : List Char} (solid : ∀ c ∈ word, Token.IsWordChar c) :
    Text.Trimmed isBlank word :=
  ⟨fun c first => (solid c (List.mem_of_head? first)).2,
    fun c last => (solid c (List.mem_of_getLast? last)).2⟩

variable {check : String → Except Url.Fault String} {source : String} {place : Place}
  {c : Command} {d : Directive}

/-- A line that starts with the tokens of a keyword is read as the source behind them. -/
theorem parse_lead_iff (spelled : List Token) {lead : List Char} {skipped : Nat}
    {keyword : String} (is : line.toList = lead ++ source.toList)
    (trimmed : Text.Trimmed isBlank line.toList)
    (isLine : IsLine lead)
    (tokens : Token.ofLine line = spelled ++ (Token.ofLine source).map (Token.shift lead.length))
    (matched : (standardWith check).matchKeyword
        (spelled.map (·.text) ++ (Token.ofLine source).map (·.text))
      = some ⟨d, spelled.length + skipped, keyword⟩) :
    (standardWith check).parse line place = .ok c
      ↔ IsLine source.toList ∧ d.isUsedIn place = true
        ∧ d.parse (argumentsOf keyword source skipped) = .ok c := by
  have texts : (Token.ofLine line).map (·.text)
      = spelled.map (·.text) ++ (Token.ofLine source).map (·.text) := by
    rw [tokens, List.map_append, List.map_map]
    rfl
  have member : d ∈ catalogWith check :=
    mem_of_lookup (build_catalogWith check) (matchUpTo_directive matched)
  rw [parse_ok_iff, Text.trim_eq_self_iff.2 trimmed, texts, is, isLine_append isLine]
  simp only [matched, Option.some.injEq, exists_eq_left']
  rw [argumentsOf, tokens, List.drop_length_add_append,
    Directive.parse_ok_congr member (alike_argumentsOf keyword is _)]

/-- **A line that is a keyword of one word and a source is read as the source, without
what the keyword absorbs.** -/
theorem parse_word_iff (word source : String) (isWord : IsWord word d)
    (is : line.toList = word.toList ++ ' ' :: source.toList)
    (trimmed : Text.Trimmed isBlank source.toList) (filled : source.toList ≠ []) :
    standard.parse line place = .ok c
      ↔ IsLine source.toList ∧ d.isUsedIn place = true
        ∧ d.parse (argumentsOf word source (absorbed ((Token.ofLine source).map (·.text))))
          = .ok c := by
  have notEmpty : word.toList ≠ [] := by
    obtain ⟨c, inside, -⟩ := isWord.spells
    exact List.ne_nil_of_mem inside
  have shape : line.toList = (word.toList ++ [' ']) ++ source.toList := by
    rw [is, List.append_assoc]
    rfl
  refine parse_lead_iff [⟨word, 0⟩] shape ?_ ?_ ?_ ?_
  · rw [shape]
    exact (trimmed_of_solid isWord.solid).append trimmed _ notEmpty filled
  · exact (isLine_append (isLine_of_solid isWord.solid)).2 (by decide)
  · exact ofLine_of_word isWord.solid notEmpty is
  · exact matchKeyword_word isWord _

/-- **A line that is a keyword of two words and a source is read as the source.** -/
theorem parse_phrase_iff (source : String) {first second keyword : String}
    (isPhrase : IsPhrase check first second keyword d)
    (is : line.toList = first.toList ++ ' ' :: (second.toList ++ ' ' :: source.toList))
    (trimmed : Text.Trimmed isBlank source.toList) (filled : source.toList ≠ []) :
    (standardWith check).parse line place = .ok c
      ↔ IsLine source.toList ∧ d.isUsedIn place = true
        ∧ d.parse (argumentsOf keyword source 0) = .ok c := by
  obtain ⟨solid, solid'⟩ := List.forall_mem_append.1 isPhrase.solid
  have shape : line.toList
      = (first.toList ++ ' ' :: (second.toList ++ [' '])) ++ source.toList := by
    rw [is]
    simp
  refine parse_lead_iff [⟨first, 0⟩, ⟨second, first.toList.length + 1⟩] shape ?_ ?_ ?_ ?_
  · rw [shape]
    exact (trimmed_of_solid solid).append trimmed _ isPhrase.filled.1 filled
  · rw [isLine_append (isLine_of_solid solid), ← List.singleton_append,
      isLine_append (by decide), isLine_append (isLine_of_solid solid')]
    decide
  · rw [Token.ofLine_eq, is, Token.ofChars,
      Token.scan_word_gap solid isPhrase.filled.1 (by decide),
      Token.scan_word_gap solid' isPhrase.filled.2 (by decide), Token.scan_eq_map_shift,
      String.ofList_toList, String.ofList_toList]
    simp [Token.ofLine_eq, Nat.add_assoc, Nat.add_comm, Nat.add_left_comm]
  · exact matchKeyword_phrase isPhrase _

/-- **Which declaration a keyword and one word make.** -/
theorem parse_declaration_iff {raw : String} (solid : ∀ c ∈ raw.toList, Token.IsWordChar c)
    (spells : ∃ c ∈ raw.toList, Keyword.isSeparator c = false) :
    standard.parse ("PARAMETER " ++ raw) place = .ok c
      ↔ ∃ name, Name.validate raw = .ok name ∧ c = .parameter name none false false := by
  obtain ⟨d, inside, plain⟩ := spells
  have filled : raw.toList ≠ [] := List.ne_nil_of_mem inside
  have words : (argumentsOf "PARAMETER" raw 0).words = [raw] := words_of_solid _ solid filled
  have kept : absorbed ((Token.ofLine raw).map (·.text)) = 0 := by
    have texts := words
    rw [words_argumentsOf, List.drop_zero] at texts
    rw [texts, absorbed, if_neg]
    intro blank
    rw [blank d inside] at plain
    cases plain
  have used : Directive.parameter.isUsedIn place = true := by cases place <;> rfl
  have noSecond : (argumentsOf "PARAMETER" raw 0).sourceFrom 1 = "" :=
    sourceFrom_of_none (by rw [words]; rfl)
  have noInput : Text.startsWith "INPUT" "PARAMETER" = false := by decide
  have noOutput : Text.startsWith "OUTPUT" "PARAMETER" = false := by decide
  rw [parse_word_iff "PARAMETER" raw (isWord_of_mem (by decide) rfl) (by simp)
    (trimmed_of_solid solid) filled, and_iff_right (isLine_of_solid solid),
    and_iff_right used, kept]
  dsimp only [Directive.parameter]
  rw [Directive.Parameter.parse_ok_iff, words, noSecond]
  change (∃ raw' rest name, _ ∧ _ ∧ c = .parameter name _ (Text.startsWith "INPUT" "PARAMETER")
    (Text.startsWith "OUTPUT" "PARAMETER")) ↔ _
  rw [noInput, noOutput]
  constructor
  · rintro ⟨_, _, name, ⟨⟩, valid, rfl⟩
    exact ⟨name, valid, rfl⟩
  · rintro ⟨name, valid, rfl⟩
    exact ⟨raw, [], name, rfl, valid, rfl⟩

end PromptPipeline.Grammar
