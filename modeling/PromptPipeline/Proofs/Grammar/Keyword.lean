/-
# Proofs.Grammar.Keyword -- the keyword that a line starts with

The keywords of the language are known (`keywords_standard`), and none has more than two
words.  So which keyword a line starts with is seen from its first two tokens: if the
first one is a keyword that does not go on with an underscore, the second is only looked
at for whether it has anything but separators (`matchKeyword_word`).  One that has not
is taken as part of the keyword.
-/
import PromptPipeline.Proofs.Grammar.Parse
import PromptPipeline.Proofs.Grammar.Token
import PromptPipeline.Proofs.Text.Split
import PromptPipeline.Proofs.Text.Trim
import Mathlib.Data.List.Nodup

namespace PromptPipeline

set_option autoImplicit false

/-! ## Canonical spellings -/

namespace Keyword

theorem isSeparator_space : isSeparator ' ' = true := by decide

theorem toUpper_underscore : Unicode.toUpper '_' = ['_'] := by decide

/-- Behind a space, nothing is spelled by separators and else one more word after an
underscore. -/
theorem canonicalChars_append {a b : List Char} (spells : ∃ c ∈ a, isSeparator c = false) :
    ((∀ c ∈ b, isSeparator c = true) ∧ canonicalChars (a ++ ' ' :: b) = canonicalChars a)
      ∨ ((∃ c ∈ b, isSeparator c = false)
        ∧ canonicalChars (a ++ ' ' :: b) = canonicalChars a ++ '_' :: canonicalChars b) := by
  have left : Text.runsBetween isSeparator a ≠ [] := fun none => by
    obtain ⟨c, inside, solid⟩ := spells
    rw [Text.runsBetween_eq_nil_iff.1 none c inside] at solid
    cases solid
  unfold canonicalChars
  rw [Text.runsBetween_append isSeparator_space]
  by_cases blank : ∀ c ∈ b, isSeparator c = true
  · refine .inl ⟨blank, ?_⟩
    rw [Text.runsBetween_eq_nil_iff.2 blank, List.append_nil]
  · have right := mt Text.runsBetween_eq_nil_iff.1 blank
    refine .inr ⟨by simpa using blank, ?_⟩
    rw [Text.joinWith_append _ left right, List.flatMap_append, List.flatMap_append,
      List.flatMap_singleton, toUpper_underscore, List.append_assoc]
    rfl

end Keyword

namespace Grammar

/-! ## The keywords of the language -/

/-- Every keyword with its directive, in catalog order. -/
def keywordTable : List (String × Directive) :=
  [("PROMPTBOOK_URL", .url), ("URL", .url), ("PROMPTBOOK_VERSION", .version), ("VERSION", .version),
    ("PARAMETER", .parameter), ("INPUT_PARAMETER", .parameter), ("OUTPUT_PARAMETER", .parameter),
    ("EXECUTE", .execute), ("EXEC", .execute), ("MODEL", .model), ("PERSONA", .persona),
    ("KNOWLEDGE", .knowledge), ("EXPECT", .expect), ("POSTPROCESS", .postprocess),
    ("POST_PROCESS", .postprocess), ("JOKER", .joker), ("FOREACH", .iterate), ("FOR", .iterate),
    ("EACH", .iterate)]

/-- A keyword with the name of its directive. -/
def named (entry : String × Directive) : String × String := (entry.1, entry.2.name)

theorem build_catalog_named :
    (build catalog).toOption.map (fun g => (g.keywords.map named, g.longest))
      = some (keywordTable.map named, 2) := by
  decide +kernel

theorem name_injective : ∀ a ∈ catalog, ∀ b ∈ catalog, a.name = b.name → a = b := by
  have distinct : (catalog.map Directive.name).Nodup := by decide
  intro a inA b inB same
  exact List.inj_on_of_nodup_map distinct inA inB same

theorem directive_mem_catalog : ∀ x ∈ keywordTable, x.2 ∈ catalog := by
  simp [keywordTable, catalog_eq]

/-- Entries that are named alike are the same. -/
theorem eq_of_named {l l' : List (String × Directive)} (mem : ∀ x ∈ l, x.2 ∈ catalog)
    (mem' : ∀ x ∈ l', x.2 ∈ catalog) (same : l.map named = l'.map named) : l = l' := by
  induction l generalizing l' with
  | nil => exact (List.map_eq_nil_iff.1 same.symm).symm
  | cons x l ih =>
      cases l' with
      | nil => cases same
      | cons y l' =>
          obtain ⟨first, others⟩ := List.cons.inj same
          obtain ⟨here, there⟩ := List.forall_mem_cons.1 mem
          obtain ⟨here', there'⟩ := List.forall_mem_cons.1 mem'
          obtain ⟨keyword, name⟩ := Prod.mk.inj first
          rw [ih there there' others, Prod.ext keyword (name_injective _ here _ here' name)]

theorem keywords_of_build {g : Grammar} (built : build catalog = .ok g) :
    g.keywords = keywordTable ∧ g.longest = 2 := by
  have known := build_catalog_named
  rw [built] at known
  obtain ⟨names, longest⟩ := Prod.mk.inj (Option.some.inj known)
  exact ⟨eq_of_named (owned_of_build built) directive_mem_catalog names, longest⟩

/-- **The keywords of the language.** -/
theorem keywords_standard : standard.keywords = keywordTable := (keywords_of_build build_catalog).1

theorem longest_standard : standard.longest = 2 := (keywords_of_build build_catalog).2

/-! ## The keyword of a line -/

variable {check : String → Except Url.Fault String}

theorem matchKeyword_standardWith (tokens : List String) :
    (standardWith check).matchKeyword tokens
      = (standardWith check).matchUpTo tokens (min tokens.length 2) := by
  rw [matchKeyword, longest_standardWith, longest_standard]
  rfl

theorem matchKeyword_standard (tokens : List String) :
    standard.matchKeyword tokens = standard.matchUpTo tokens (min tokens.length 2) :=
  matchKeyword_standardWith tokens

-- The grammar is a variable here, for one that is unfolded is built.

theorem matchUpTo_one (g : Grammar) (tokens : List String) :
    g.matchUpTo tokens 1 = g.matchExactly tokens 1 := Option.or_none

theorem matchUpTo_two (g : Grammar) (tokens : List String) :
    g.matchUpTo tokens 2 = (g.matchExactly tokens 2).or (g.matchExactly tokens 1) := by
  rw [matchUpTo, matchUpTo_one]

/-- The spelling of the first tokens decides. -/
theorem matchExactly_of_lookup {tokens : List String} {count : Nat} {keyword : String}
    (spelled : Keyword.canonical (Text.join " " (tokens.take count)) = keyword) :
    standard.matchExactly tokens count
      = (keywordTable.lookup keyword).map fun d => ⟨d, count, keyword⟩ := by
  rw [matchExactly, keywords_standard, spelled]

/-- A keyword of two words in the language with a check of URLs. -/
structure IsPhrase (check : String → Except Url.Fault String) (first second keyword : String)
    (d : Directive) : Prop where
  solid : ∀ c ∈ first.toList ++ second.toList, Token.IsWordChar c
  filled : first.toList ≠ [] ∧ second.toList ≠ []
  owned : (standardWith check).keywords.lookup keyword = some d
  canonical : Keyword.canonical (first ++ " " ++ second) = keyword

/-- **A keyword of two words.**  No keyword is longer, so it absorbs nothing. -/
theorem matchKeyword_phrase {first second keyword : String} {d : Directive}
    (isPhrase : IsPhrase check first second keyword d) (rest : List String) :
    (standardWith check).matchKeyword (first :: second :: rest) = some ⟨d, 2, keyword⟩ := by
  have joined : Keyword.canonical (Text.join " " ((first :: second :: rest).take 2)) = keyword := by
    rw [← isPhrase.canonical]
    congr 1
    apply String.toList_inj.1
    simp [Text.join, Text.joinWith]
  have two : min (first :: second :: rest).length 2 = 2 := by simp
  rw [matchKeyword_standardWith, two, matchUpTo_two, matchExactly, joined, isPhrase.owned]
  rfl

/-- A keyword of one word with which no other keyword goes on. -/
structure IsWord (word : String) (d : Directive) : Prop where
  solid : ∀ c ∈ word.toList, Token.IsWordChar c
  owned : keywordTable.lookup word = some d
  canonical : Keyword.canonical word = word
  spells : ∃ c ∈ word.toList, Keyword.isSeparator c = false
  alone : ∀ keyword ∈ keywordTable.map Prod.fst, ¬word.toList ++ ['_'] <+: keyword.toList

/-- How many of the tokens behind a keyword of one word are taken as part of it: the
first one if it has only separators. -/
def absorbed : List String → Nat
  | [] => 0
  | first :: _ => if ∀ c ∈ first.toList, Keyword.isSeparator c = true then 1 else 0

/-- Only separators are absorbed. -/
theorem separators_of_lt_absorbed {tokens : List String} {index : Nat} {token : String}
    (there : tokens[index]? = some token) (absorbs : index < absorbed tokens) :
    ∀ c ∈ token.toList, Keyword.isSeparator c = true := by
  cases tokens with
  | nil => cases there
  | cons first tokens =>
      rw [absorbed] at absorbs
      split at absorbs
      · rename_i blank
        obtain rfl : index = 0 := Nat.lt_one_iff.1 absorbs
        cases there
        exact blank
      · cases absorbs

/-- **A keyword of one word, with what it absorbs.** -/
theorem matchKeyword_word {word : String} {d : Directive} (isWord : IsWord word d)
    (rest : List String) :
    standard.matchKeyword (word :: rest) = some ⟨d, 1 + absorbed rest, word⟩ := by
  have joined : Keyword.canonical (Text.join " " ((word :: rest).take 1)) = word := by
    have single : Text.join " " [word] = word := by simp [Text.join, Text.joinWith]
    rw [List.take_succ_cons, List.take_zero, single, isWord.canonical]
  have one : standard.matchExactly (word :: rest) 1 = some ⟨d, 1, word⟩ := by
    rw [matchExactly_of_lookup joined, isWord.owned]
    rfl
  cases rest with
  | nil =>
      have single : min [word].length 2 = 1 := rfl
      rw [matchKeyword_standard, single, matchUpTo_one, one]
      rfl
  | cons second rest =>
      have two : min (word :: second :: rest).length 2 = 2 := by simp
      have chars : (Text.join " " ((word :: second :: rest).take 2)).toList
          = word.toList ++ ' ' :: second.toList := by
        simp [Text.join, Text.joinWith]
      have spelled : Keyword.canonicalChars word.toList = word.toList := by
        have canonical := congrArg String.toList isWord.canonical
        rwa [Keyword.canonical, String.toList_ofList] at canonical
      rw [matchKeyword_standard, two, matchUpTo_two, absorbed, one]
      rcases Keyword.canonicalChars_append (b := second.toList) isWord.spells with
        ⟨blank, is⟩ | ⟨solid, is⟩
      · have same : Keyword.canonical (Text.join " " ((word :: second :: rest).take 2)) = word := by
          rw [Keyword.canonical, chars, is, spelled, String.ofList_toList]
        rw [matchExactly_of_lookup same, isWord.owned, if_pos blank]
        rfl
      · have other : keywordTable.lookup
            (Keyword.canonical (Text.join " " ((word :: second :: rest).take 2))) = none := by
          refine List.lookup_eq_none_iff.2 fun x member => ?_
          rw [Keyword.canonical, chars, is, spelled, bne_iff_ne]
          rintro same
          refine isWord.alone x.1 (List.mem_map_of_mem member) ?_
          rw [← same, String.toList_ofList]
          exact ⟨Keyword.canonicalChars second.toList, by simp⟩
        have notBlank : ¬∀ c ∈ second.toList, Keyword.isSeparator c = true := by
          simpa using solid
        rw [matchExactly_of_lookup rfl, other, if_neg notBlank]
        rfl

/-! ## The keywords under which commands are written -/

/-- The keywords of two words under which commands are written, with the two words. -/
def phrases : List (String × String × String) :=
  [("PROMPTBOOK", "URL", "PROMPTBOOK_URL"), ("PROMPTBOOK", "VERSION", "PROMPTBOOK_VERSION"),
    ("INPUT", "PARAMETER", "INPUT_PARAMETER"), ("OUTPUT", "PARAMETER", "OUTPUT_PARAMETER")]

theorem phrases_canonical : ∀ x ∈ phrases,
    (∀ c ∈ x.1.toList ++ x.2.1.toList, Token.IsWordChar c)
      ∧ (x.1.toList ≠ [] ∧ x.2.1.toList ≠ [])
      ∧ Keyword.canonical (x.1 ++ " " ++ x.2.1) = x.2.2 := by
  decide +kernel

theorem isPhrase_of_mem {first second keyword : String} {d : Directive}
    (phrase : (first, second, keyword) ∈ phrases)
    (owned : (standardWith check).keywords.lookup keyword = some d) :
    IsPhrase check first second keyword d :=
  have ⟨solid, filled, canonical⟩ := phrases_canonical _ phrase
  ⟨solid, filled, owned, canonical⟩

theorem lookup_standard {keyword : String} {d : Directive}
    (owned : keywordTable.lookup keyword = some d) : standard.keywords.lookup keyword = some d := by
  rw [keywords_standard]
  exact owned

/-- The keyword of the URL is the first one of all. -/
theorem lookup_url :
    (standardWith check).keywords.lookup "PROMPTBOOK_URL" = some (.urlWith check) := by
  obtain ⟨-, is⟩ := build_ok_iff.1 (build_catalogWith check)
  have canonical : Keyword.canonical "PROMPTBOOK_URL" = "PROMPTBOOK_URL" := by decide
  have first : (Directive.urlWith check).spellings.contains "PROMPTBOOK_URL" = true := by
    rw [Directive.spellings, Directive.keywords, List.map_cons, List.contains_cons]
    change (_ == Keyword.canonical "PROMPTBOOK_URL" || _) = true
    rw [canonical, BEq.rfl, Bool.true_or]
  rw [is, lookup_flatMap]
  exact List.find?_cons_of_pos first

theorem isPhrase_url : IsPhrase check "PROMPTBOOK" "URL" "PROMPTBOOK_URL" (.urlWith check) :=
  isPhrase_of_mem (by decide) lookup_url

theorem isPhrase_version :
    IsPhrase Url.check "PROMPTBOOK" "VERSION" "PROMPTBOOK_VERSION" .version :=
  isPhrase_of_mem (by decide) (lookup_standard rfl)

theorem isPhrase_input : IsPhrase Url.check "INPUT" "PARAMETER" "INPUT_PARAMETER" .parameter :=
  isPhrase_of_mem (by decide) (lookup_standard rfl)

theorem isPhrase_output : IsPhrase Url.check "OUTPUT" "PARAMETER" "OUTPUT_PARAMETER" .parameter :=
  isPhrase_of_mem (by decide) (lookup_standard rfl)

/-- The keywords of one word under which commands are written. -/
def plainWords : List String :=
  ["PARAMETER", "EXECUTE", "MODEL", "PERSONA", "KNOWLEDGE", "EXPECT", "POSTPROCESS", "JOKER"]

theorem plainWords_alone : ∀ word ∈ plainWords,
    ((∀ c ∈ word.toList, Token.IsWordChar c) ∧ Keyword.canonical word = word)
      ∧ (∃ c ∈ word.toList, Keyword.isSeparator c = false)
      ∧ ∀ keyword ∈ keywordTable.map Prod.fst, ¬word.toList ++ ['_'] <+: keyword.toList := by
  decide +kernel

theorem isWord_of_mem {word : String} {d : Directive} (plain : word ∈ plainWords)
    (owned : keywordTable.lookup word = some d) : IsWord word d :=
  have ⟨⟨solid, canonical⟩, spells, alone⟩ := plainWords_alone word plain
  ⟨solid, owned, canonical, spells, alone⟩

end Grammar

end PromptPipeline
