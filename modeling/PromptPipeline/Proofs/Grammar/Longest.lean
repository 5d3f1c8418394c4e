/-
# Proofs.Grammar.Longest -- the longest keyword at the start of a line

A keyword is looked for among the first tokens of a line, but among no more tokens than a keyword
has words.  Tokens that all have words leave nothing out: as many tokens have at least as many
words, and the spelling of a keyword has no more of them than the keyword
(`length_le_wordCount`, `wordCount_le_longest`).  So what is found is the longest keyword over
the whole line, and each token that is taken gives it a word.

A token without words, of nothing but separators, can be counted for nothing.  Exactly where one
stands among tokens that spell a keyword, it is swallowed or the keyword is overlooked
(`matchKeyword_splits_iff`).
-/
import PromptPipeline.Proofs.Grammar.Build
import PromptPipeline.Proofs.Grammar.Keyword

namespace PromptPipeline

set_option autoImplicit false

/-! ## Words of keywords -/

namespace Keyword

/-- The words of a text as a keyword has them. -/
def words (text : String) : List String :=
  (Text.runsBetween isSeparator text.toList).map fun run =>
    String.ofList (run.flatMap Unicode.toUpper)

/-- A text has no words exactly if it has nothing but separators. -/
theorem words_eq_nil_iff {text : String} :
    words text = [] ↔ ∀ c ∈ text.toList, isSeparator c = true := by
  rw [words, List.map_eq_nil_iff, Text.runsBetween_eq_nil_iff]

theorem flatMap_joinWith (f : Char → List Char) (separator : List Char)
    (pieces : List (List Char)) :
    (Text.joinWith separator pieces).flatMap f
      = Text.joinWith (separator.flatMap f) (pieces.map (·.flatMap f)) := by
  induction pieces with
  | nil => rfl
  | cons first rest ih =>
      cases rest with
      | nil => rfl
      | cons second rest =>
          rw [Text.joinWith_cons_cons, List.flatMap_append, List.flatMap_append, ih]
          rfl

/-- **The canonical spelling is the words joined by underscores.** -/
theorem canonical_eq_join (text : String) : canonical text = Text.join "_" (words text) := by
  have underscore : ['_'].flatMap Unicode.toUpper = "_".toList := by decide
  rw [canonical, canonicalChars, flatMap_joinWith, underscore, Text.join, words, List.map_map]
  congr 3
  funext run
  exact String.toList_ofList.symm

/-- **Tokens next to each other have the words of each of them.** -/
theorem words_join (tokens : List String) :
    words (Text.join " " tokens) = tokens.flatMap words := by
  induction tokens with
  | nil => rfl
  | cons token rest ih =>
      cases rest with
      | nil => simp [Text.join, Text.joinWith]
      | cons next rest =>
          have space : isSeparator ' ' = true := isSeparator_space
          have chars : (Text.join " " (token :: next :: rest)).toList
              = token.toList ++ ' ' :: (Text.join " " (next :: rest)).toList := by
            simp [Text.join, Text.joinWith]
          rw [List.flatMap_cons, ← ih, words, chars, Text.runsBetween_append space, List.map_append]
          rfl

/-- Words that are joined are counted again, for no word is lost. -/
theorem length_le_wordCount {ws : List String} (filled : ws ≠ []) :
    ws.length ≤ wordCount (Text.join "_" ws) := by
  have one : ∀ s : List Char, 1 ≤ (Text.splitAt (· == '_') s).length := fun s =>
    List.length_pos_iff.2 (Text.splitAt_ne_nil _ s)
  unfold wordCount
  rw [Text.join, String.toList_ofList]
  induction ws with
  | nil => exact absurd rfl filled
  | cons first rest ih =>
      cases rest with
      | nil => exact one _
      | cons second rest =>
          have joined : Text.joinWith "_".toList ((first :: second :: rest).map String.toList)
              = first.toList
                ++ '_' :: Text.joinWith "_".toList ((second :: rest).map String.toList) := by
            simp [Text.joinWith]
          have later := ih (List.cons_ne_nil _ _)
          have here := one first.toList
          rw [joined, Text.splitAt_append, List.length_append]
          simp only [List.length_cons] at later ⊢
          omega

/-- Tokens that all have words have as many of them in a keyword. -/
theorem length_le_wordCount_canonical {tokens : List String} (filled : tokens ≠ [])
    (each : ∀ token ∈ tokens, words token ≠ []) :
    tokens.length ≤ wordCount (canonical (Text.join " " tokens)) := by
  rw [canonical_eq_join, words_join]
  have many : tokens.length ≤ (tokens.flatMap words).length := by
    clear filled
    induction tokens with
    | nil => exact Nat.le_refl _
    | cons token rest ih =>
        obtain ⟨first, others⟩ := List.forall_mem_cons.1 each
        have here := List.length_pos_iff.2 first
        have later := ih others
        rw [List.flatMap_cons, List.length_append, List.length_cons]
        omega
  refine many.trans (length_le_wordCount ?_)
  rintro none
  rw [none] at many
  exact filled (List.length_eq_zero_iff.1 (Nat.le_zero.1 many))

end Keyword

namespace Grammar

/-! ## The bound on tokens -/

namespace Claims

/-- No keyword has more words than the number that is kept for the longest. -/
def Capped (claims : Claims) : Prop :=
  ∀ entry ∈ claims.keywords, Keyword.wordCount entry.1 ≤ claims.longest

theorem Capped.withKeyword {claims : Claims} (capped : claims.Capped) (d : Directive)
    (keyword : String) : (claims.withKeyword d keyword).Capped := by
  refine List.forall_mem_append.2 ⟨fun entry member => ?_, List.forall_mem_singleton.2 ?_⟩
  · exact (capped entry member).trans (Nat.le_max_left _ _)
  · exact Nat.le_max_right _ _

theorem Capped.withDirective {claims : Claims} (capped : claims.Capped) (d : Directive) :
    (claims.withDirective d).Capped := by
  have named : (d.keywords.foldl (Claims.withKeyword d) claims).Capped :=
    List.foldlRecOn _ _ capped fun _ capped keyword _ => capped.withKeyword d keyword
  exact List.foldlRecOn (motive := Capped) d.produces _ named fun _ capped _ _ => capped

end Claims

variable {directives : List Directive} {g : Grammar} {tokens : List String}

/-- **No keyword of a grammar has more words than its longest.** -/
theorem wordCount_le_longest (built : build directives = .ok g) {d : Directive} {keyword : String}
    (member : d ∈ directives) (spelled : keyword ∈ d.spellings) :
    Keyword.wordCount keyword ≤ g.longest := by
  have capped : (directives.foldl Claims.withDirective {}).Capped :=
    List.foldlRecOn _ _ (fun _ h => nomatch h) fun _ capped d _ => capped.withDirective d
  obtain ⟨-, rfl⟩ := build_ok_iff.1 built
  refine capped (keyword, d) ?_
  rw [Claims.keywords_foldl_withDirective]
  exact List.mem_flatMap.2 ⟨d, member, List.mem_map_of_mem spelled⟩

/-! ## Spelled keywords -/

/-- The first `count` tokens spell a keyword of a directive. -/
structure Spells (directives : List Directive) (tokens : List String) (count : Nat)
    (d : Directive) : Prop where
  within : count ≤ tokens.length
  listed : d ∈ directives
  spelled : Keyword.canonical (Text.join " " (tokens.take count)) ∈ d.spellings

/-- What is found at the start of the tokens is the longest keyword that any number of them spell,
with its owner, and every token that is taken gives it words. -/
structure IsLongest (directives : List Directive) (tokens : List String) (found : Match) : Prop
    where
  spells : Spells directives tokens found.consumed found.directive
  keyword : found.keyword = Keyword.canonical (Text.join " " (tokens.take found.consumed))
  longest : ∀ count d, Spells directives tokens count d → count ≤ found.consumed
  lossless : ∀ token ∈ tokens.take found.consumed, Keyword.words token ≠ []

/-- The longest keyword is split off, if there is any. -/
inductive SplitsOff (directives : List Directive) (tokens : List String) : Option Match → Prop
  | some {found : Match} (longest : IsLongest directives tokens found) :
      SplitsOff directives tokens (some found)
  | none (spellsNothing : ∀ count d, ¬Spells directives tokens count d) :
      SplitsOff directives tokens none

/-- No keyword is spelled by no tokens. -/
theorem Spells.pos (built : build directives = .ok g) {count : Nat} {d : Directive}
    (spells : Spells directives tokens count d) : 0 < count := by
  refine Nat.pos_of_ne_zero ?_
  rintro rfl
  obtain ⟨apart, -⟩ := build_ok_iff.1 built
  exact apart.spelled (List.mem_flatMap.2 ⟨d, spells.listed, spells.spelled⟩)

/-- **Tokens with words that spell a keyword are no more than the words of the longest.** -/
theorem Spells.le_longest (built : build directives = .ok g) {count : Nat} {d : Directive}
    (spells : Spells directives tokens count d)
    (each : ∀ token ∈ tokens.take count, Keyword.words token ≠ []) : count ≤ g.longest := by
  have length : (tokens.take count).length = count := List.length_take_of_le spells.within
  have filled : tokens.take count ≠ [] := by
    rintro none
    rw [none] at length
    exact (spells.pos built).ne length
  calc
    count = (tokens.take count).length := length.symm
    _ ≤ Keyword.wordCount (Keyword.canonical (Text.join " " (tokens.take count))) :=
      Keyword.length_le_wordCount_canonical filled each
    _ ≤ g.longest := wordCount_le_longest built spells.listed spells.spelled

/-! ## The search -/

/-- The tokens of one length are matched with the directive whose keyword they spell. -/
theorem matchExactly_eq_some_iff (built : build directives = .ok g) {count : Nat}
    (within : count ≤ tokens.length) {found : Match} :
    g.matchExactly tokens count = some found
      ↔ Spells directives tokens count found.directive
        ∧ found = ⟨found.directive, count,
          Keyword.canonical (Text.join " " (tokens.take count))⟩ := by
  obtain ⟨apart, rfl⟩ := build_ok_iff.1 built
  unfold matchExactly
  dsimp only
  rw [lookup_flatMap, Option.map_eq_some_iff]
  have owner : ∀ d, directives.find? (fun d => d.spellings.contains
      (Keyword.canonical (Text.join " " (tokens.take count)))) = some d
        ↔ Spells directives tokens count d := by
    intro d
    rw [← Option.mem_toList, ← filter_eq_find? apart.keywords, List.mem_filter,
      List.contains_iff_mem]
    exact ⟨fun ⟨listed, spelled⟩ => ⟨within, listed, spelled⟩,
      fun spells => ⟨spells.listed, spells.spelled⟩⟩
  simp only [owner]
  constructor
  · rintro ⟨d, spells, rfl⟩
    exact ⟨spells, rfl⟩
  · rintro ⟨spells, is⟩
    exact ⟨_, spells, is.symm⟩

/-- Nothing is found among the first tokens only if nothing is matched at any length. -/
theorem matchExactly_eq_none_of_matchUpTo {n count : Nat} (none : g.matchUpTo tokens n = none)
    (pos : 0 < count) (le : count ≤ n) : g.matchExactly tokens count = Option.none := by
  induction n with
  | zero => omega
  | succ n ih =>
      obtain ⟨last, before⟩ := Option.or_eq_none_iff.1 none
      rcases Nat.le_succ_iff.1 le with earlier | rfl
      · exact ih before earlier
      · exact last

/-- What is found is matched at its length, and at no greater one. -/
theorem matchUpTo_eq_some {n : Nat} {found : Match}
    (is : g.matchUpTo tokens n = some found) :
    found.consumed ≤ n ∧ g.matchExactly tokens found.consumed = some found
      ∧ ∀ count, found.consumed < count → count ≤ n → g.matchExactly tokens count = none := by
  induction n with
  | zero => cases is
  | succ n ih =>
      rcases Option.or_eq_some_iff.1 is with here | ⟨none, before⟩
      · obtain ⟨d, -, rfl⟩ := Option.map_eq_some_iff.1 here
        exact ⟨Nat.le_refl _, here, fun count more le => absurd le (Nat.not_le_of_lt more)⟩
      · obtain ⟨within, exactly, longer⟩ := ih before
        refine ⟨Nat.le_succ_of_le within, exactly, fun count more le => ?_⟩
        rcases Nat.le_succ_iff.1 le with earlier | rfl
        · exact longer count more earlier
        · exact none

/-- What is found is spelled. -/
theorem spells_of_matchKeyword (built : build directives = .ok g) {found : Match}
    (is : g.matchKeyword tokens = some found) :
    Spells directives tokens found.consumed found.directive
      ∧ found.keyword = Keyword.canonical (Text.join " " (tokens.take found.consumed)) := by
  obtain ⟨within, exactly, -⟩ := matchUpTo_eq_some is
  obtain ⟨spells, same⟩ :=
    (matchExactly_eq_some_iff built (within.trans (Nat.min_le_left _ _))).1 exactly
  exact ⟨spells, congrArg Match.keyword same⟩

/-- **Nothing longer is overlooked among as many tokens as the longest keyword has words.** -/
theorem exists_of_spells (built : build directives = .ok g) {count : Nat} {d : Directive}
    (spells : Spells directives tokens count d) (le : count ≤ g.longest) :
    ∃ found, g.matchKeyword tokens = some found ∧ count ≤ found.consumed := by
  have tried : count ≤ min tokens.length (max g.longest 1) :=
    Nat.le_min.2 ⟨spells.within, le.trans (Nat.le_max_left _ _)⟩
  have matched : g.matchExactly tokens count ≠ none := by
    rw [Option.ne_none_iff_exists']
    exact ⟨⟨d, count, _⟩, (matchExactly_eq_some_iff built spells.within).2 ⟨spells, rfl⟩⟩
  cases is : g.matchKeyword tokens with
  | none => exact absurd (matchExactly_eq_none_of_matchUpTo is (spells.pos built) tried) matched
  | some found =>
      refine ⟨found, rfl, Nat.not_lt.1 fun more => ?_⟩
      exact matched ((matchUpTo_eq_some is).2.2 count more tried)

/-- **Which keyword is found at the start of a list of tokens.**  What is found is spelled by the
tokens that are taken, under its owner, and nothing longer is spelled by at most as many tokens
as the longest keyword has words.  It is the longest of all, with a word from each token, and
nothing is found only where there is none, exactly if every token among those that spell a
keyword has words. -/
theorem matchKeyword_splits_iff (built : build directives = .ok g) (tokens : List String) :
    (∀ found, g.matchKeyword tokens = some found →
        Spells directives tokens found.consumed found.directive
          ∧ found.keyword = Keyword.canonical (Text.join " " (tokens.take found.consumed)))
      ∧ (∀ count d, Spells directives tokens count d → count ≤ g.longest →
        ∃ found, g.matchKeyword tokens = some found ∧ count ≤ found.consumed)
      ∧ (SplitsOff directives tokens (g.matchKeyword tokens)
        ↔ ∀ count d, Spells directives tokens count d →
          ∀ token ∈ tokens.take count, Keyword.words token ≠ []) := by
  refine ⟨fun _ is => spells_of_matchKeyword built is,
    fun _ _ spells le => exists_of_spells built spells le, ?_⟩
  constructor
  · intro splits count d spells token member
    generalize g.matchKeyword tokens = found at splits
    cases splits with
    | none spellsNothing => exact absurd spells (spellsNothing count d)
    | some longest =>
        have fewer := longest.longest count d spells
        exact longest.lossless token (List.take_subset_take_left tokens fewer member)
  · intro each
    have short : ∀ count d, Spells directives tokens count d →
        ∃ found, g.matchKeyword tokens = some found ∧ count ≤ found.consumed :=
      fun count d spells =>
        exists_of_spells built spells (spells.le_longest built (each count d spells))
    cases is : g.matchKeyword tokens with
    | none =>
        refine .none fun count d spells => ?_
        obtain ⟨found, other, -⟩ := short count d spells
        rw [is] at other
        cases other
    | some found =>
        obtain ⟨spells, keyword⟩ := spells_of_matchKeyword built is
        refine .some ⟨spells, keyword, fun count d spells => ?_, each _ _ spells⟩
        obtain ⟨found', other, le⟩ := short count d spells
        rw [is] at other
        cases other
        exact le

/-- Tokens that spell no keyword of the language are not matched. -/
theorem matchExactly_eq_none {count : Nat} {text : String}
    (spelled : Keyword.canonical (Text.join " " (tokens.take count)) = text)
    (unknown : ∀ entry ∈ keywordTable.map named, text ≠ entry.1) :
    standard.matchExactly tokens count = none := by
  rw [matchExactly_of_lookup spelled, List.lookup_eq_none_iff.2, Option.map_none]
  exact fun entry member => bne_iff_ne.2 (unknown _ (List.mem_map_of_mem member))

/-- A keyword of two words in one token is split off as one token. -/
theorem matchKeyword_splits_phrase :
    let tokens := ["Post  _process", "trim"]
    build catalog = .ok standard ∧ (∀ token ∈ tokens, Keyword.words token ≠ [])
      ∧ standard.matchKeyword tokens = some ⟨.postprocess, 1, "POST_PROCESS"⟩
      ∧ SplitsOff catalog tokens (some ⟨.postprocess, 1, "POST_PROCESS"⟩) := by
  intro tokens
  have solid : ∀ token ∈ tokens, ∃ c ∈ token.toList, Keyword.isSeparator c = false := by decide
  have each : ∀ token ∈ tokens, Keyword.words token ≠ [] := fun token member none => by
    obtain ⟨c, inside, noSeparator⟩ := solid token member
    rw [Keyword.words_eq_nil_iff.1 none c inside] at noSeparator
    cases noSeparator
  have owned : keywordTable.lookup "POST_PROCESS" = some .postprocess := by
    simp [keywordTable, List.lookup_cons]
  have spelled : Keyword.canonical (Text.join " " (tokens.take 1)) = "POST_PROCESS" := by
    decide +kernel
  have longer : Keyword.canonical (Text.join " " (tokens.take 2)) = "POST_PROCESS_TRIM" := by
    decide +kernel
  have one : standard.matchExactly tokens 1 = some ⟨.postprocess, 1, "POST_PROCESS"⟩ := by
    rw [matchExactly_of_lookup spelled, owned, Option.map_some]
  have two : standard.matchExactly tokens 2 = none :=
    matchExactly_eq_none longer (by decide +kernel)
  have is : standard.matchKeyword tokens = some ⟨.postprocess, 1, "POST_PROCESS"⟩ := by
    rw [matchKeyword_standard, show min tokens.length 2 = 2 from rfl, matchUpTo_two, two, one]
    rfl
  have splits := (matchKeyword_splits_iff build_catalog tokens).2.2.2
    fun _ _ _ token member => each token (List.mem_of_mem_take member)
  rw [is] at splits
  exact ⟨build_catalog, each, is, splits⟩

/-- Tokens without words are counted: with two of them a keyword behind them is overlooked, and
one behind a keyword is swallowed. -/
theorem matchKeyword_overlooks :
    build catalog = .ok standard
      ∧ Spells catalog ["_", "_", "VERSION"] 3 .version
      ∧ standard.matchKeyword ["_", "_", "VERSION"] = none
      ∧ standard.matchKeyword ["KNOWLEDGE", "_"] = some ⟨.knowledge, 2, "KNOWLEDGE"⟩
      ∧ ¬SplitsOff catalog ["KNOWLEDGE", "_"] (some ⟨.knowledge, 2, "KNOWLEDGE"⟩) := by
  have version : Directive.version ∈ catalog := by simp [catalog_eq]
  have blank : ∀ count, count ≤ 2 →
      standard.matchExactly ["_", "_", "VERSION"] count = none := by
    intro count le
    have spelled : Keyword.canonical (Text.join " " (["_", "_", "VERSION"].take count)) = "" := by
      revert count
      decide +kernel
    exact matchExactly_eq_none spelled (by decide +kernel)
  have overlooked : standard.matchKeyword ["_", "_", "VERSION"] = none := by
    rw [matchKeyword_standard, show min ["_", "_", "VERSION"].length 2 = 2 from rfl,
      matchUpTo_two, blank 2 (by decide), blank 1 (by decide)]
    rfl
  have isWord : IsWord "KNOWLEDGE" .knowledge := isWord_of_mem (by decide) rfl
  have swallowed := matchKeyword_word isWord ["_"]
  have spells : Spells catalog ["_", "_", "VERSION"] 3 .version :=
    ⟨Nat.le_refl 3, version, by decide +kernel⟩
  have noWords : Keyword.words "_" = [] := Keyword.words_eq_nil_iff.2 (by decide)
  refine ⟨build_catalog, spells, overlooked, swallowed, fun splits => ?_⟩
  cases splits with
  | some longest =>
      exact longest.lossless "_" (List.mem_cons_of_mem _ List.mem_cons_self) noWords

end Grammar

end PromptPipeline
