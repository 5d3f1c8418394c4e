/-
# Proofs.Validation.Head -- what the check of a head accepts

The shapes of a published URL and of a semantic version, said without the readers
that look for them (`isHttpsUrl_iff`, `isValid_iff`).
-/
import PromptPipeline.Proofs.Text.Trim
import PromptPipeline.Validation.Basic

namespace PromptPipeline

set_option autoImplicit false

/-! ## Versions -/

namespace SemanticVersion

/-- Decimal digits, at least one. -/
def IsNumber (s : List Char) : Prop := s ≠ [] ∧ ∀ c ∈ s, Unicode.isDecimalDigit c = true

/-- An optional tag behind its mark. -/
def IsMarked (mark : Char) (s : List Char) : Prop :=
  s = [] ∨ ∃ tag, s = mark :: tag ∧ tag ≠ [] ∧ ∀ c ∈ tag, isTagChar c = true

/-- Three numbers between dots, then an optional pre-release and an optional build. -/
def IsSemantic (version : String) : Prop :=
  ∃ major minor patch pre build : List Char,
    version.toList = major ++ '.' :: (minor ++ '.' :: (patch ++ (pre ++ build)))
      ∧ IsNumber major ∧ IsNumber minor ∧ IsNumber patch
      ∧ IsMarked '-' pre ∧ IsMarked '+' build

theorem takeWhile_append {p : Char → Bool} {s rest : List Char} (all : ∀ c ∈ s, p c = true)
    (stop : ∀ c, rest.head? = some c → p c = false) : (s ++ rest).takeWhile p = s := by
  rw [List.takeWhile_append_of_pos all]
  cases rest with
  | nil => simp
  | cons c rest => rw [List.takeWhile_cons_of_neg (by simp [stop c rfl]), List.append_nil]

theorem dropWhile_append {p : Char → Bool} {s rest : List Char} (all : ∀ c ∈ s, p c = true)
    (stop : ∀ c, rest.head? = some c → p c = false) : (s ++ rest).dropWhile p = rest := by
  rw [List.dropWhile_append_of_pos all]
  exact Text.dropLeading_of_head stop

/-- The digits that a number reader takes, with what stops it. -/
theorem afterNumber?_eq_some_iff {s rest : List Char} :
    afterNumber? s = some rest ↔
      (∃ number, s = number ++ rest ∧ IsNumber number)
        ∧ ∀ c, rest.head? = some c → Unicode.isDecimalDigit c = false := by
  constructor
  · intro read
    unfold afterNumber? at read
    split at read
    · rename_i first
      obtain rfl := Option.some.inj read
      refine ⟨⟨s.takeWhile Unicode.isDecimalDigit, List.takeWhile_append_dropWhile.symm, ?_, ?_⟩,
        Text.dropLeading_head s⟩
      · cases s with
        | nil => simp at first
        | cons c s =>
            rw [List.takeWhile_cons_of_pos (by simpa using first)]
            simp
      · intro c hc
        exact List.all_eq_true.1 List.all_takeWhile c hc
    · simp at read
  · rintro ⟨⟨number, rfl, full, digits⟩, stop⟩
    unfold afterNumber?
    rw [dropWhile_append digits stop]
    cases number with
    | nil => exact absurd rfl full
    | cons c number => rw [if_pos (by simpa using digits c List.mem_cons_self)]

theorem afterDot?_eq_some_iff {s rest : List Char} : afterDot? s = some rest ↔ s = '.' :: rest := by
  unfold afterDot?
  split
  · simp
  · rename_i noDot
    constructor
    · intro h
      simp at h
    · intro h
      exact absurd h (noDot rest)

theorem isTag_iff {s : List Char} : isTag s = true ↔ s ≠ [] ∧ ∀ c ∈ s, isTagChar c = true := by
  simp [isTag]

theorem isBuild_iff {s : List Char} : isBuild s = true ↔ IsMarked '+' s := by
  unfold isBuild IsMarked
  split
  · simp
  · simp [isTag_iff]
  · rename_i full noPlus
    simp only [Bool.false_eq_true, false_iff, not_or, not_exists]
    exact ⟨full, fun tag h => noPlus tag h.1⟩

theorem isSuffix_iff {s : List Char} :
    isSuffix s = true ↔ ∃ pre build, s = pre ++ build ∧ IsMarked '-' pre ∧ IsMarked '+' build := by
  constructor
  · intro accepted
    unfold isSuffix at accepted
    split at accepted
    · rename_i rest
      rw [Bool.and_eq_true, isTag_iff, isBuild_iff] at accepted
      refine ⟨'-' :: rest.takeWhile isTagChar, rest.dropWhile isTagChar, ?_, ?_, accepted.2⟩
      · rw [List.cons_append, List.takeWhile_append_dropWhile]
      · exact Or.inr ⟨_, rfl, accepted.1⟩
    · exact ⟨[], s, rfl, Or.inl rfl, isBuild_iff.1 accepted⟩
  · rintro ⟨pre, build, rfl, rfl | ⟨tag, rfl, full, chars⟩, marked⟩
    · have accepted := isBuild_iff.2 marked
      rcases marked with rfl | ⟨tag, rfl, -⟩
      · exact accepted
      · exact accepted
    · have stop : ∀ c, build.head? = some c → isTagChar c = false := by
        intro c first
        rcases marked with rfl | ⟨tag, rfl, -⟩
        · simp at first
        · obtain rfl : '+' = c := by simpa using first
          decide
      rw [List.cons_append, isSuffix, takeWhile_append chars stop, dropWhile_append chars stop,
        Bool.and_eq_true]
      exact ⟨isTag_iff.2 ⟨full, chars⟩, isBuild_iff.2 marked⟩

/-- A suffix does not start with a digit. -/
theorem not_digit_of_isSuffix {s : List Char} (suffix : isSuffix s = true) (c : Char)
    (first : s.head? = some c) : Unicode.isDecimalDigit c = false := by
  obtain ⟨pre, build, rfl, pre_marked, build_marked⟩ := isSuffix_iff.1 suffix
  rcases pre_marked with rfl | ⟨tag, rfl, -⟩
  · rcases build_marked with rfl | ⟨tag, rfl, -⟩
    · simp at first
    · obtain rfl : '+' = c := by simpa using first
      decide
  · obtain rfl : '-' = c := by simpa using first
    decide

/-- **The version reader accepts exactly the semantic versions.** -/
theorem isValid_iff {version : String} : isValid version = true ↔ IsSemantic version := by
  have dot : ∀ (rest : List Char) (c : Char), ('.' :: rest).head? = some c →
      Unicode.isDecimalDigit c = false := by
    intro rest c first
    obtain rfl : '.' = c := by simpa using first
    decide
  constructor
  · intro accepted
    obtain ⟨suffix, read, isEnd⟩ := (Option.any_eq_true _ _).1 accepted
    obtain ⟨s₁, h₁, read⟩ := Option.bind_eq_some_iff.1 read
    obtain ⟨s₂, h₂, read⟩ := Option.bind_eq_some_iff.1 read
    obtain ⟨s₃, h₃, read⟩ := Option.bind_eq_some_iff.1 read
    obtain ⟨s₄, h₄, h₅⟩ := Option.bind_eq_some_iff.1 read
    obtain ⟨⟨major, whole, majorNumber⟩, -⟩ := afterNumber?_eq_some_iff.1 h₁
    obtain rfl := afterDot?_eq_some_iff.1 h₂
    obtain ⟨⟨minor, rfl, minorNumber⟩, -⟩ := afterNumber?_eq_some_iff.1 h₃
    obtain rfl := afterDot?_eq_some_iff.1 h₄
    obtain ⟨⟨patch, rfl, patchNumber⟩, -⟩ := afterNumber?_eq_some_iff.1 h₅
    obtain ⟨pre, build, rfl, marked⟩ := isSuffix_iff.1 isEnd
    exact ⟨major, minor, patch, pre, build, whole, majorNumber, minorNumber, patchNumber, marked⟩
  · rintro ⟨major, minor, patch, pre, build, whole, majorNumber, minorNumber, patchNumber, marked⟩
    have suffix : isSuffix (pre ++ build) = true := isSuffix_iff.2 ⟨pre, build, rfl, marked⟩
    refine (Option.any_eq_true _ _).2 ⟨pre ++ build, ?_, suffix⟩
    rw [whole]
    refine Option.bind_eq_some_iff.2
      ⟨_, afterNumber?_eq_some_iff.2 ⟨⟨major, rfl, majorNumber⟩, dot _⟩, ?_⟩
    refine Option.bind_eq_some_iff.2 ⟨_, afterDot?_eq_some_iff.2 rfl, ?_⟩
    refine Option.bind_eq_some_iff.2
      ⟨_, afterNumber?_eq_some_iff.2 ⟨⟨minor, rfl, minorNumber⟩, dot _⟩, ?_⟩
    refine Option.bind_eq_some_iff.2 ⟨_, afterDot?_eq_some_iff.2 rfl, ?_⟩
    exact afterNumber?_eq_some_iff.2 ⟨⟨patch, rfl, patchNumber⟩, not_digit_of_isSuffix suffix⟩

end SemanticVersion

/-! ## URLs -/

namespace Validation

/-- The scheme, a host that does not start with a slash, and no white space. -/
def IsPublished (url : String) : Prop :=
  ∃ host : String, url = "https://" ++ host ∧ host ≠ "" ∧ host.toList.head? ≠ some '/'
    ∧ ∀ c ∈ url.toList, Unicode.isBlank c = false

theorem isHttpsUrl_iff {url : String} : isHttpsUrl url = true ↔ IsPublished url := by
  unfold isHttpsUrl IsPublished
  split
  · rename_i foreign
    simp only [Bool.false_eq_true, false_iff, not_exists]
    rintro host ⟨rfl, -⟩
    rw [Text.afterLead?_eq_some_iff.2 (String.toList_append)] at foreign
    simp at foreign
  · rename_i host lead
    have whole := Text.afterLead?_eq_some_iff.1 lead
    have same : ∀ other : String, url = "https://" ++ other ↔ other.toList = host := by
      intro other
      rw [← String.toList_inj, String.toList_append, whole, List.append_cancel_left_eq]
      exact eq_comm
    constructor
    · intro accepted
      refine ⟨String.ofList host, (same _).2 String.toList_ofList, ?_⟩
      simpa [and_assoc] using accepted
    · rintro ⟨other, parts, full, first, clean⟩
      obtain rfl := (same other).1 parts
      simp only [Bool.and_eq_true, Bool.not_eq_true', List.isEmpty_eq_false_iff, bne_iff_ne,
        List.any_eq_false, Bool.not_eq_true]
      exact ⟨⟨fun h => full (String.toList_eq_nil_iff.1 h), first⟩, clean⟩

theorem head_eq_nil_iff {p : Pipeline} :
    head p = [] ↔ (∀ url, p.url = some url → IsPublished url)
      ∧ ∀ version, p.version = some version → SemanticVersion.IsSemantic version := by
  unfold head
  rw [List.append_eq_nil_iff, List.map_eq_nil_iff, List.map_eq_nil_iff, List.filter_eq_nil_iff,
    List.filter_eq_nil_iff]
  simp [isHttpsUrl_iff, SemanticVersion.isValid_iff]

end Validation

end PromptPipeline
