/-
# Proofs.Url.Https -- which texts are https URLs

Controls and spaces around a URL are dropped, and so are tabs and line ends in it.  What is left is
an https URL if it spells the scheme, in any case, then a colon, any number of slashes of either
kind, and an authority (`check_https_iff`).
-/
import PromptPipeline.Proofs.Edit.Run
import PromptPipeline.Proofs.Url.Authority

namespace PromptPipeline.Url

set_option autoImplicit false

variable {labels? : Domain.Reading} {s rest : List Char} {u : String}

/-- The characters of a URL that count. -/
def cleaned (u : String) : List Char :=
  (Text.strip isControlOrSpace u.toList).filter (!isIgnored ·)

/-- Either slash. -/
def isSlash (c : Char) : Bool := c == '/' || c == '\\'

/-- **A text that spells an https URL** with this text behind the slashes. -/
def SpellsHttps (u : String) (behind : List Char) : Prop :=
  ∃ scheme slashes, cleaned u = scheme ++ ':' :: (slashes ++ behind)
    ∧ scheme.map Char.toLower = "https".toList
    ∧ (∀ c ∈ slashes, isSlash c = true) ∧ ∀ c ∈ behind.head?, isSlash c = false

/-! ## Schemes -/

theorem isAlpha_of_toLower {c : Char} (letter : c.toLower.isAlpha = true) : c.isAlpha = true := by
  by_cases upper : c.isUpper = true
  · exact Bool.or_eq_true_iff.2 (.inl upper)
  · have same : c.toLower = c := dif_neg fun range => upper (decide_eq_true range)
    rwa [same] at letter

theorem isAlpha_of_https {scheme : List Char} (https : scheme.map Char.toLower = "https".toList) :
    ∀ c ∈ scheme, c.isAlpha = true := by
  have letters : ∀ d ∈ "https".toList, d.isAlpha = true := by decide
  intro c member
  exact isAlpha_of_toLower (letters _ (https ▸ List.mem_map_of_mem member))

theorem scheme?_https_iff : scheme? s = some ("https", rest)
    ↔ ∃ scheme, s = scheme ++ ':' :: rest ∧ scheme.map Char.toLower = "https".toList := by
  unfold scheme?
  constructor
  · intro read
    split at read
    · rename_i colon
      obtain ⟨name, rfl⟩ := Prod.mk.inj (Option.some.inj read)
      refine ⟨s.takeWhile isSchemeChar, ?_, ?_⟩
      · rw [← colon, List.takeWhile_append_dropWhile]
      · rw [← name, String.toList_ofList]
    · cases read
  · rintro ⟨scheme, rfl, https⟩
    have letters := isAlpha_of_https https
    have inScheme : ∀ c ∈ scheme, isSchemeChar c = true := fun c member => by
      rw [isSchemeChar, Char.isAlphanum, letters c member]
      rfl
    have colon : isSchemeChar ':' = false := by decide
    have taken : (scheme ++ ':' :: rest).takeWhile isSchemeChar = scheme := by
      rw [List.takeWhile_append_of_pos inScheme, List.takeWhile_cons_of_neg (by simp [colon]),
        List.append_nil]
    have dropped : (scheme ++ ':' :: rest).dropWhile isSchemeChar = ':' :: rest := by
      rw [List.dropWhile_append_of_pos inScheme, List.dropWhile_cons_of_neg (by simp [colon])]
    have first : (scheme ++ ':' :: rest).head?.any Char.isAlpha = true := by
      cases scheme with
      | nil => cases https
      | cons c scheme => exact letters c List.mem_cons_self
    rw [first, taken, dropped, https, String.ofList_toList]
    rfl

/-! ## URLs -/

/-- An https URL has the scheme, and an authority behind the slashes. -/
theorem check_https_iff_scheme : checkWith labels? u = .ok "https"
    ↔ ∃ rest, scheme? (cleaned u) = some ("https", rest)
      ∧ checkAuthority labels? true (rest.dropWhile isSlash) = .ok () := by
  have special : SchemeKind.of "https" = .special := by decide
  have is : (Text.strip isControlOrSpace u.toList).filter (!isIgnored ·) = cleaned u := rfl
  unfold checkWith
  dsimp only
  rw [is]
  cases scheme? (cleaned u) with
  | none => simp
  | some found =>
      obtain ⟨name, rest⟩ := found
      dsimp only
      constructor
      · intro read
        have returned {x : Except Fault Unit} (ran : (x >>= fun _ => pure name) = .ok "https") :
            name = "https" := by
          obtain ⟨-, -, named⟩ := Except.bind_ok_iff.1 ran
          exact Except.ok.inj named
        obtain rfl : name = "https" := by
          split at read
          · exact returned read
          · exact returned read
          · split at read
            · exact returned read
            · exact returned read
        rw [special] at read
        obtain ⟨⟨⟩, accepted, -⟩ := Except.bind_ok_iff.1 read
        exact ⟨rest, rfl, accepted⟩
      · rintro ⟨rest', same, accepted⟩
        obtain ⟨rfl, rfl⟩ := Prod.mk.inj (Option.some.inj same)
        rw [special]
        exact Except.bind_ok_iff.2 ⟨(), accepted, rfl⟩

theorem spells_iff {behind : List Char} : SpellsHttps u behind
    ↔ ∃ rest, scheme? (cleaned u) = some ("https", rest) ∧ behind = rest.dropWhile isSlash := by
  constructor
  · rintro ⟨scheme, slashes, is, https, all, first⟩
    refine ⟨slashes ++ behind, scheme?_https_iff.2 ⟨scheme, is, https⟩, ?_⟩
    rw [List.dropWhile_append_of_pos all]
    exact (Text.dropLeading_of_head first).symm
  · rintro ⟨rest, read, rfl⟩
    obtain ⟨scheme, is, https⟩ := scheme?_https_iff.1 read
    refine ⟨scheme, rest.takeWhile isSlash, ?_, https, ?_, Text.dropLeading_head rest⟩
    · rw [is, List.takeWhile_append_dropWhile]
    · exact fun c member => List.all_eq_true.1 List.all_takeWhile c member

/-- A text spells an https URL in one way. -/
theorem SpellsHttps.unique {behind behind' : List Char} (spells : SpellsHttps u behind)
    (spells' : SpellsHttps u behind') : behind = behind' := by
  obtain ⟨rest, read, rfl⟩ := spells_iff.1 spells
  obtain ⟨rest', read', rfl⟩ := spells_iff.1 spells'
  obtain ⟨-, rfl⟩ := Prod.mk.inj (Option.some.inj (read.symm.trans read'))
  rfl

/-- **Which texts are https URLs.** -/
theorem check_https_iff :
    checkWith labels? u = .ok "https" ↔ ∃ behind, SpellsHttps u behind ∧ IsAuthority labels? behind := by
  rw [check_https_iff_scheme]
  constructor
  · rintro ⟨rest, read, accepted⟩
    exact ⟨_, spells_iff.2 ⟨rest, read, rfl⟩, checkAuthority_ok_iff.1 accepted⟩
  · rintro ⟨behind, spells, isAuthority⟩
    obtain ⟨rest, read, rfl⟩ := spells_iff.1 spells
    exact ⟨rest, read, checkAuthority_ok_iff.2 isAuthority⟩

/-! ## URLs in their usual form -/

/-- What ends in nothing that is dropped stays in front. -/
theorem exists_strip_append {p : Char → Bool} {lead : List Char} (trimmed : Text.Trimmed p lead)
    (filled : lead ≠ []) (s : List Char) : ∃ rest, Text.strip p (lead ++ s) = lead ++ rest := by
  have first : Text.dropLeading p (lead ++ s) = lead ++ s := by
    refine Text.dropLeading_of_head fun c head => trimmed.1 c ?_
    rwa [List.head?_append_of_ne_nil _ filled] at head
  have kept : lead.reverse.dropWhile p = lead.reverse := by
    refine Text.dropLeading_of_head fun c head => trimmed.2 c ?_
    rwa [List.head?_reverse] at head
  rw [Text.strip, first, Text.dropTrailing, List.reverse_append, List.dropWhile_append]
  split
  · exact ⟨[], by rw [kept, List.reverse_reverse, List.append_nil]⟩
  · exact ⟨(s.reverse.dropWhile p).reverse, by rw [List.reverse_append, List.reverse_reverse]⟩

theorem trimmed_of_all {p : Char → Bool} (none : ∀ c ∈ s, p c = false) : Text.Trimmed p s :=
  ⟨fun c first => none c (List.mem_of_head? first),
    fun c last => none c (List.mem_of_getLast? last)⟩

/-- A text that starts with the scheme and two slashes spells an https URL. -/
theorem exists_spells_of_lead (lead : "https://".toList <+: u.toList) :
    ∃ behind, SpellsHttps u behind := by
  obtain ⟨s, is⟩ := lead
  have trimmed : Text.Trimmed isControlOrSpace "https://".toList := trimmed_of_all (by decide)
  obtain ⟨rest, stripped⟩ := exists_strip_append trimmed (by decide) s
  refine ⟨_, spells_iff.2 ⟨'/' :: '/' :: rest.filter (!isIgnored ·), ?_, rfl⟩⟩
  refine scheme?_https_iff.2 ⟨"https".toList, ?_, by decide⟩
  rw [cleaned, ← is, stripped, List.filter_append]
  rfl

/-- Without anything to drop, the authority stands behind the two slashes. -/
theorem spells_of_plain {behind : List Char} (is : u.toList = "https://".toList ++ behind)
    (plain : ∀ c ∈ behind, isControlOrSpace c = false)
    (first : ∀ c ∈ behind.head?, isSlash c = false) : SpellsHttps u behind := by
  have all : ∀ c ∈ u.toList, isControlOrSpace c = false := by
    rw [is]
    exact List.forall_mem_append.2 ⟨by decide, plain⟩
  have ignored : ∀ c, isIgnored c = true → isControlOrSpace c = true := by
    intro c dropped
    simp only [isIgnored, Bool.or_eq_true, beq_iff_eq] at dropped
    rcases dropped with (rfl | rfl) | rfl <;> decide
  have kept : cleaned u = u.toList := by
    rw [cleaned, Text.strip_eq_self (trimmed_of_all all)]
    refine List.filter_eq_self.2 fun c member => ?_
    have stays : isIgnored c = false := Bool.eq_false_iff.2 fun dropped => by
      have control := ignored c dropped
      rw [all c member] at control
      cases control
    rw [stays]
    rfl
  exact ⟨"https".toList, ['/', '/'], by rw [kept, is]; rfl, by decide, by decide, first⟩

end PromptPipeline.Url
