/-
# Proofs.Grammar.Rest -- commands that take the rest of the line

A source of knowledge is one word or the rest of its line, and a persona is always the rest
of its line.  They are written without backticks, so a source is read back if it has no
blanks around it, and a persona if its name has no backticks around it; and of both the
keyword must not absorb the first token (`parse_knowledge_iff`, `parse_persona_iff`).
-/
import PromptPipeline.Proofs.Grammar.Heard
import Mathlib.Tactic.Cases

namespace PromptPipeline.Grammar

set_option autoImplicit false

open Markdown (IsLine)
open Unicode (isBlank)

variable {place : Place}

/-! ## Sources of knowledge -/

/-- A source of knowledge as it is heard: a word, or the rest of a line that has more. -/
def IsKnowledge (source : String) : Prop :=
  (source.toList ≠ [] ∧ '`' ∉ source.toList)
    ∨ (Token.IsSource source.toList
      ∧ ∃ first second rest, (Token.ofLine source).map (·.text) = first :: second :: rest)

/-- A trimmed source of knowledge starts with its first token. -/
theorem isSource_of_isKnowledge {source : String} (heard : IsKnowledge source)
    (trimmed : Text.Trimmed isBlank source.toList) : Token.IsSource source.toList := by
  rcases heard with ⟨filled, noTick⟩ | ⟨isSource, -⟩
  · obtain ⟨c, rest, is⟩ := List.exists_cons_of_ne_nil filled
    rw [is] at noTick trimmed ⊢
    exact Token.isSource_of_head (fun tick => noTick (tick ▸ List.mem_cons_self)) trimmed
  · exact isSource

/-- The arguments say a source of knowledge. -/
def Says (a : Arguments) (source : String) : Prop :=
  a.words = [source]
    ∨ (∃ first second rest, a.words = first :: second :: rest) ∧ a.sourceFrom 0 = source

/-- A source of knowledge is said by itself. -/
theorem says_self {source : String} (heard : IsKnowledge source)
    (isSource : Token.IsSource source.toList) : Says (argumentsOf "KNOWLEDGE" source 0) source := by
  have words : (argumentsOf "KNOWLEDGE" source 0).words = (Token.ofLine source).map (·.text) := by
    rw [words_argumentsOf, List.drop_zero]
  obtain ⟨t, after, tokens, -⟩ := isSource.starts
  rw [Says, words, Token.ofLine_eq]
  cases after with
  | nil =>
      left
      rcases heard with ⟨-, noTick⟩ | ⟨-, first, second, rest, more⟩
      · rw [tokens, List.map_singleton, Token.text_of_single noTick isSource.trimmed.1
          isSource.trimmed.2 tokens, String.ofList_toList]
      · rw [Token.ofLine_eq, tokens] at more
        cases more
  | cons u after =>
      right
      rw [tokens]
      exact ⟨⟨_, _, _, rfl⟩, sourceFrom_of_isSource isSource⟩

/-- What is said of a source without its first tokens is not the source. -/
theorem skipped_of_says {source : String} {skipped : Nat} (isSource : Token.IsSource source.toList)
    (said : Says (argumentsOf "KNOWLEDGE" source skipped) source) : skipped = 0 := by
  rcases said with said | ⟨⟨first, second, rest, said⟩, whole⟩
  · -- The source is a word, so it has no other token that could be skipped.
    have member : source ∈ (argumentsOf "KNOWLEDGE" source skipped).words := by
      rw [said]
      exact List.mem_singleton_self source
    have solid := solid_of_word (text_of_word member).2.1 member
    have only := words_of_solid "KNOWLEDGE" solid isSource.ne_nil
    rw [words_argumentsOf, List.drop_zero] at only
    rw [words_argumentsOf, only] at said
    cases skipped with
    | zero => rfl
    | succ n =>
        rw [List.drop_succ_cons, List.drop_nil] at said
        cases said
  · -- The rest of the line is the whole line only from the first token on.
    obtain ⟨t, there, is, -⟩ := source_argumentsOf isSource.trimmed 0 (by rw [said]; rfl)
    rw [whole] at is
    have start : t.start = 0 := by
      have length := congrArg List.length is
      have filled := List.length_pos_of_ne_nil isSource.ne_nil
      rw [List.length_drop] at length
      omega
    exact Token.index_eq_zero_of_start there start

/-- A source of knowledge that is read back has no blanks around it. -/
theorem trimmed_of_parse_knowledge {source : String}
    (parsed : standard.parse ("KNOWLEDGE " ++ source) place = .ok (.knowledge source)) :
    Text.Trimmed isBlank source.toList := by
  obtain ⟨-, -, keyword, skipped, -, read⟩ := exists_arguments parsed
  dsimp only [owner, Command.kind, Directive.knowledge, Directive.knowledgeWith] at read
  obtain ⟨_, said, -, ⟨⟩⟩ := Directive.Knowledge.parse_ok_iff.1 read
  rcases said with said | ⟨⟨first, second, rest, said⟩, whole⟩
  · exact trimmed_of_solid (heard_solid (by decide) said)
  · obtain ⟨t, -, is, isSource, -⟩ :=
      source_argumentsOf (Text.trim_eq_self_iff.1 (Text.trim_trim _)) 0 (by rw [said]; rfl)
    rw [whole] at is
    exact is ▸ isSource.trimmed

/-- A source of knowledge is read back if it is trimmed and keeps its start. -/
theorem parse_knowledge_iff {source : String} (used : Directive.knowledge.isUsedIn place = true)
    (acceptable : Directive.Knowledge.Acceptable source) (heard : IsKnowledge source)
    (isLine : IsLine source.toList) :
    standard.parse ("KNOWLEDGE " ++ source) place = .ok (.knowledge source)
      ↔ Text.trim source = source ∧ Kept source := by
  rw [Text.trim_eq_self_iff]
  by_cases trimmed : Text.Trimmed isBlank source.toList
  · have isSource := isSource_of_isKnowledge heard trimmed
    rw [and_iff_right trimmed, parse_word_iff "KNOWLEDGE" source (isWord_of_mem (by decide) rfl)
      (by simp) trimmed isSource.ne_nil, and_iff_right isLine,
      and_iff_right used]
    dsimp only [Directive.knowledge, Directive.knowledgeWith]
    rw [Directive.Knowledge.parse_ok_iff]
    constructor
    · rintro ⟨_, said, -, ⟨⟩⟩
      exact skipped_of_says isSource said
    · intro kept
      rw [kept]
      exact ⟨source, says_self heard isSource, acceptable, rfl⟩
  · constructor
    · exact fun parsed => absurd (trimmed_of_parse_knowledge parsed) trimmed
    · exact fun faithful => absurd faithful.1 trimmed

/-! ## Personas -/

/-- What the line of a persona has behind the keyword. -/
def personaSource (name : String) : Option String → String
  | none => name
  | some description => name ++ ", " ++ description

/-- The name and the description of a persona as they are heard. -/
structure IsPersona (name : String) (description : Option String) : Prop where
  filled : name.toList ≠ []
  trimmed : Text.Trimmed isBlank name.toList
  noComma : ',' ∉ name.toList
  isLine : IsLine name.toList
  described : ∀ d ∈ description,
    d.toList ≠ [] ∧ Text.Trimmed isBlank d.toList ∧ IsLine d.toList

/-- What a source gives a persona is heard so. -/
theorem isPersona_of_spoken {source name description : List Char} (isLine : IsLine source)
    (spoken : Directive.Persona.spoken source = (name, description)) (filled : name ≠ []) :
    IsPersona (String.ofList name) (Directive.described (String.ofList description)) := by
  obtain ⟨rfl, rfl⟩ := Prod.mk.inj spoken
  have inName {c : Char} (inside : c ∈ Directive.Persona.bareName (source.takeWhile (· != ','))) :
      c ∈ source.takeWhile (· != ',') :=
    Text.mem_of_mem_strip (Text.mem_of_mem_strip (Text.mem_of_mem_strip inside))
  refine ⟨?_, ?_, ?_, ?_, ?_⟩
  · rwa [String.toList_ofList]
  · rw [String.toList_ofList]
    exact Text.trimmed_strip _
  · rw [String.toList_ofList]
    intro comma
    have other := List.all_eq_true.1 List.all_takeWhile _ (inName comma)
    exact absurd other (by decide)
  · rw [String.toList_ofList]
    exact IsLine.of_subset isLine fun c inside => List.takeWhile_subset _ (inName inside)
  · intro d is
    unfold Directive.described at is
    split at is
    · cases is
    · rename_i more
      cases is
      rw [String.toList_ofList]
      refine ⟨by simpa using more, Text.trimmed_strip _, ?_⟩
      refine IsLine.of_subset isLine fun c inside => ?_
      exact List.dropWhile_subset _ (List.mem_of_mem_tail (Text.mem_of_mem_strip inside))

theorem bareName_sublist (s : List Char) : (Directive.Persona.bareName s).Sublist s :=
  (Text.strip_sublist _).trans ((Text.strip_sublist _).trans (Text.strip_sublist s))

/-- A name that is bare has no backtick at its ends. -/
theorem noTick_of_bareName {s : List Char} (bare : Directive.Persona.bareName s = s) :
    Text.Trimmed (· == '`') s := by
  have trimmed : Text.Trimmed isBlank s := by
    rw [← bare]
    exact Text.trimmed_strip _
  have shorter : (Directive.Persona.bareName s).length ≤ (Text.strip (· == '`') s).length := by
    rw [Directive.Persona.bareName, Text.strip_eq_self trimmed]
    exact (Text.strip_sublist _).length_le
  rw [bare] at shorter
  rw [← (Text.strip_sublist s).eq_of_length_le shorter]
  exact Text.trimmed_strip s

/-- Behind the name stands nothing, or a comma and the description. -/
theorem exists_rest_personaSource (name : String) (description : Option String) :
    ∃ rest, (personaSource name description).toList = name.toList ++ rest
      ∧ (rest = [] ∧ description = none ∨ ∃ d ∈ description, rest = ',' :: ' ' :: d.toList) := by
  cases description with
  | none => exact ⟨[], (List.append_nil _).symm, .inl ⟨rfl, rfl⟩⟩
  | some d => exact ⟨',' :: ' ' :: d.toList, by simp [personaSource], .inr ⟨d, rfl, rfl⟩⟩

variable {name : String} {description : Option String}

theorem trimmed_personaSource (isPersona : IsPersona name description) :
    Text.Trimmed isBlank (personaSource name description).toList := by
  cases description with
  | none => exact isPersona.trimmed
  | some d =>
      obtain ⟨more, trimmed, -⟩ := isPersona.described d rfl
      have is : (personaSource name (some d)).toList
          = name.toList ++ [',', ' '] ++ d.toList := by
        simp [personaSource]
      rw [is]
      exact isPersona.trimmed.append trimmed _ isPersona.filled more

theorem isLine_personaSource (isPersona : IsPersona name description) :
    IsLine (personaSource name description).toList := by
  obtain ⟨rest, is, end_ | ⟨d, said, rfl⟩⟩ := exists_rest_personaSource name description
  · rw [is, end_.1, List.append_nil]
    exact isPersona.isLine
  · rw [is, isLine_append isPersona.isLine, ← List.singleton_append, isLine_append (by decide),
      ← List.singleton_append, isLine_append (by decide)]
    exact (isPersona.described d said).2.2

/-- What the end of a source gives a persona, from anywhere in the name on. -/
theorem spoken_personaSource (isPersona : IsPersona name description) {part rest : List Char}
    (noComma : ',' ∉ part)
    (behind : rest = [] ∧ description = none ∨ ∃ d ∈ description, rest = ',' :: ' ' :: d.toList) :
    (Directive.Persona.spoken (part ++ rest)).1 = Directive.Persona.bareName part
      ∧ Directive.described (String.ofList (Directive.Persona.spoken (part ++ rest)).2)
        = description := by
  have stays : ∀ c ∈ part, (c != ',') = true := fun c inside =>
    bne_iff_ne.2 fun comma => noComma (comma ▸ inside)
  unfold Directive.Persona.spoken
  dsimp only
  rw [List.takeWhile_append_of_pos stays, List.dropWhile_append_of_pos stays]
  rcases behind with ⟨rfl, rfl⟩ | ⟨d, said, rfl⟩
  · rw [List.takeWhile_nil, List.append_nil]
    exact ⟨rfl, rfl⟩
  · cases said
    obtain ⟨more, trimmed, -⟩ := isPersona.described d rfl
    have tail : Text.strip isBlank (' ' :: d.toList) = d.toList := by
      have blank : isBlank ' ' = true := by decide
      rw [Text.strip, Text.dropLeading, List.dropWhile_cons_of_pos blank]
      exact Text.strip_eq_self trimmed
    rw [List.takeWhile_cons_of_neg (by decide), List.dropWhile_cons_of_neg (by decide),
      List.append_nil, List.tail_cons, tail, String.ofList_toList, Directive.described,
      if_neg (by simpa using more)]
    exact ⟨rfl, rfl⟩

/-- The first token that a keyword leaves does not start behind a character that is no
separator. -/
theorem start_le_of_solid {a b : List Char} {c : Char} {t : Token} (isWord : Token.IsWordChar c)
    (solid : Keyword.isSeparator c = false)
    (there : (Token.ofChars (a ++ c :: b))[absorbed ((Token.ofChars (a ++ c :: b)).map (·.text))]?
      = some t) :
    t.start ≤ a.length := by
  obtain ⟨u, member, inside, start⟩ :=
    Token.exists_token_of_mem false a b isWord (Token.before_none 0)
  change u ∈ Token.ofChars (a ++ c :: b) at member
  have ordered : (Token.ofChars (a ++ c :: b)).Pairwise (·.start < ·.start) :=
    Token.scan_pairwise (Token.before_none 0)
  generalize Token.ofChars (a ++ c :: b) = tokens at there member ordered
  rw [Nat.zero_add] at start
  obtain ⟨j, isU⟩ := List.getElem?_of_mem member
  -- The token of the character is not absorbed, so it does not stand before the first one left.
  have kept : absorbed (tokens.map (·.text)) ≤ j := by
    refine Nat.not_lt.1 fun absorbs => ?_
    have text : (tokens.map (·.text))[j]? = some u.text := by rw [List.getElem?_map, isU]; rfl
    have blank := separators_of_lt_absorbed text absorbs c inside
    rw [solid] at blank
    cases blank
  refine le_trans ?_ start
  rcases Nat.lt_or_eq_of_le kept with less | same
  · obtain ⟨low, rfl⟩ := List.getElem?_eq_some_iff.1 isU
    obtain ⟨low', rfl⟩ := List.getElem?_eq_some_iff.1 there
    exact Nat.le_of_lt (List.pairwise_iff_getElem.1 ordered _ _ low' low less)
  · rw [same, isU] at there
    cases there
    exact Nat.le_refl _

/-- The first token that is left stands in the name. -/
theorem start_le_of_personaSource {t : Token}
    (there : (Token.ofLine (personaSource name description))[absorbed
      ((Token.ofLine (personaSource name description)).map (·.text))]? = some t)
    (isSource : Token.IsSource ((personaSource name description).toList.drop t.start)) :
    t.start ≤ name.toList.length := by
  obtain ⟨rest, is, ⟨none, -⟩ | ⟨d, -, behind⟩⟩ := exists_rest_personaSource name description
  · refine Nat.le_of_not_lt fun high => isSource.ne_nil ?_
    rw [is, none, List.append_nil]
    exact List.drop_eq_nil_of_le (Nat.le_of_lt high)
  · rw [Token.ofLine_eq, is, behind] at there
    exact start_le_of_solid (by decide) (by decide) there

/-- What is read of a persona, from the first token that is left on. -/
def ReadsPersona (name : String) (description : Option String) : Prop :=
  Directive.Persona.parse (argumentsOf "PERSONA" (personaSource name description)
      (absorbed ((Token.ofLine (personaSource name description)).map (·.text))))
    = .ok (.persona name description)

/-- A persona that is read back has a bare name, and the keyword leaves its first token. -/
theorem bare_of_readsPersona (isPersona : IsPersona name description)
    (reads : ReadsPersona name description) :
    Directive.Persona.bareName name.toList = name.toList
      ∧ Kept (personaSource name description) := by
  obtain ⟨rest, is, behind⟩ := exists_rest_personaSource name description
  obtain ⟨name', description', spoken, filled, same⟩ := Directive.Persona.parse_ok_iff.1 reads
  obtain rfl : name = String.ofList name' := (Command.persona.inj same).1
  rw [String.toList_ofList] at is ⊢
  have said : (Directive.Persona.spoken _).1 = name' := congrArg Prod.fst spoken
  cases word : (argumentsOf "PERSONA" (personaSource (String.ofList name') description)
      (absorbed ((Token.ofLine (personaSource (String.ofList name') description)).map
        (·.text)))).words[0]? with
  | none =>
      have nothing : Directive.Persona.spoken "".toList = ([], []) := by decide
      rw [sourceFrom_of_none word, nothing] at said
      exact absurd said.symm filled
  | some word' =>
      obtain ⟨t, there, source, isSource, -⟩ :=
        source_argumentsOf (trimmed_personaSource isPersona) _ word
      have inName := start_le_of_personaSource there isSource
      rw [String.toList_ofList] at inName
      have noComma : ',' ∉ name'.drop t.start := fun comma =>
        isPersona.noComma (by rw [String.toList_ofList]; exact List.mem_of_mem_drop comma)
      rw [source, is, List.drop_append_of_le_length inName,
        (spoken_personaSource isPersona noComma behind).1] at said
      -- A shorter name is another one.
      have start : t.start = 0 := by
        have shorter := (bareName_sublist (name'.drop t.start)).length_le
        have more := List.length_pos_of_ne_nil filled
        rw [said, List.length_drop] at shorter
        omega
      rw [start, List.drop_zero] at said
      exact ⟨said, Token.index_eq_zero_of_start there start⟩

/-- A persona with a bare name starts with its first token. -/
theorem isSource_of_bare (isPersona : IsPersona name description)
    (bare : Directive.Persona.bareName name.toList = name.toList) :
    Token.IsSource (personaSource name description).toList := by
  obtain ⟨rest, is, -⟩ := exists_rest_personaSource name description
  obtain ⟨c, more, chars⟩ := List.exists_cons_of_ne_nil isPersona.filled
  have noTick : c ≠ '`' := by
    have ends := noTick_of_bareName bare
    rw [chars] at ends
    exact ne_of_beq_false (ends.1 c rfl)
  have trimmed := trimmed_personaSource isPersona
  rw [is, chars, List.cons_append] at trimmed ⊢
  exact Token.isSource_of_head noTick trimmed

theorem readsPersona_of_bare (isPersona : IsPersona name description)
    (bare : Directive.Persona.bareName name.toList = name.toList)
    (kept : Kept (personaSource name description)) : ReadsPersona name description := by
  obtain ⟨rest, is, behind⟩ := exists_rest_personaSource name description
  obtain ⟨said, described⟩ := spoken_personaSource isPersona isPersona.noComma behind
  obtain ⟨name', description', spoken⟩ : ∃ name' description',
      Directive.Persona.spoken (name.toList ++ rest) = (name', description') := ⟨_, _, rfl⟩
  rw [spoken] at said described
  obtain rfl : name' = name.toList := said.trans bare
  rw [ReadsPersona, Directive.Persona.parse_ok_iff, kept,
    sourceFrom_of_isSource (isSource_of_bare isPersona bare), is]
  refine ⟨_, description', spoken, isPersona.filled, ?_⟩
  rw [String.ofList_toList, described]

/-- A persona is read back if its name is bare and the source keeps its start. -/
theorem parse_persona_iff {line : String} (used : Directive.persona.isUsedIn place = true)
    (isPersona : IsPersona name description)
    (written : Directive.Persona.write (.persona name description) = .ok line) :
    standard.parse line place = .ok (.persona name description)
      ↔ Directive.Persona.bareName name.toList = name.toList
        ∧ Kept (personaSource name description) := by
  have is : line.toList
      = "PERSONA".toList ++ ' ' :: (personaSource name description).toList := by
    cases description with
    | none =>
        cases written
        simp [personaSource]
    | some d =>
        cases written
        simp [personaSource]
  have filled : (personaSource name description).toList ≠ [] := by
    obtain ⟨rest, shape, -⟩ := exists_rest_personaSource name description
    rw [shape]
    exact List.append_ne_nil_of_left_ne_nil isPersona.filled _
  rw [parse_word_iff "PERSONA" _ (isWord_of_mem (by decide) rfl) is
    (trimmed_personaSource isPersona) filled, and_iff_right (isLine_personaSource isPersona),
    and_iff_right used]
  dsimp only [Directive.persona]
  exact ⟨bare_of_readsPersona isPersona, fun said => readsPersona_of_bare isPersona said.1 said.2⟩

end PromptPipeline.Grammar
