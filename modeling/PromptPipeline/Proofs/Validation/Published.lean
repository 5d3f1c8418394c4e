/-
# Proofs.Validation.Published -- the two rules for pipeline URLs

A pipeline URL is checked twice.  The command reads it as the URL standard does: controls around it
and the case of the scheme do not matter, nor do the slashes in front of the authority, but the host
and the port do.  The check of a pipeline looks at the text: it asks for the scheme in lower case,
two slashes, anything but a slash, and no white space.

Either rule accepts texts that the other one refuses (`url_rules_differ`).  They agree where the
authority of a URL is one just when the URL is written as the check asks (`url_rules`).

The rules are related in this way for every reading of domain names, the part of an authority that
a standard of its own decides.
-/
import PromptPipeline.Proofs.Grammar.Arguments
import PromptPipeline.Proofs.Url.Https
import PromptPipeline.Proofs.Validation.Census

namespace PromptPipeline

set_option autoImplicit false

open Grammar (standard ofReading)
open Markdown (IsLine)
open Validation (violations IsPublished)
open Url (SpellsHttps IsAuthority)

variable {p : Pipeline} {u : String}

/-! ## The check -/

namespace Validation

/-- The violation of a URL is found for the URL of the pipeline, unless it is one. -/
theorem invalidUrl_mem_violations_iff :
    .invalidUrl u ∈ violations p ↔ p.url = some u ∧ ¬IsPublished u := by
  have noCycle : .invalidUrl u ∉ cycles p := by
    intro member
    obtain ⟨cycle, -, is⟩ := List.mem_map.1 member
    cases is
  rw [violations, List.mem_append, or_iff_left noCycle, ← List.count_pos_iff, List.count_append,
    List.count_append, List.count_append, count_head, count_parameters, count_templates,
    count_producers, ← isHttpsUrl_iff, Bool.not_eq_true]
  dsimp only
  split
  · rename_i broken
    exact iff_of_true (by decide) broken
  · rename_i fine
    exact iff_of_false (by decide) fine

/-- No other violation has the code of this one. -/
theorem code_eq_E001_iff {v : Violation} : v.code = "E001" ↔ ∃ u, v = .invalidUrl u := by
  cases v <;> simp [Violation.code]

/-- **When the check finds nothing about the URL.** -/
theorem no_E001_iff (given : p.url = some u) :
    (∀ v ∈ violations p, v.code ≠ "E001") ↔ IsPublished u := by
  constructor
  · intro none
    by_contra broken
    exact none _ (invalidUrl_mem_violations_iff.2 ⟨given, broken⟩) rfl
  · intro published v member code
    obtain ⟨u', rfl⟩ := code_eq_E001_iff.1 code
    obtain ⟨given', broken⟩ := invalidUrl_mem_violations_iff.1 member
    obtain rfl : u = u' := Option.some.inj (given.symm.trans given')
    exact broken published

end Validation

/-! ## The command -/

/-- The line of a URL between backticks. -/
def urlLine (u : String) : String := "PROMPTBOOK URL `" ++ u ++ "`"

theorem toList_urlLine (u : String) : (urlLine u).toList
    = "PROMPTBOOK".toList ++ ' ' :: ("URL".toList ++ ' ' :: '`' :: (u.toList ++ ['`'])) := by
  change ("PROMPTBOOK URL `" ++ u ++ "`").toList = _
  rw [String.toList_append, String.toList_append, List.append_assoc]
  rfl

namespace Grammar

theorem standard_eq_ofReading : standard = ofReading Idna.labels? := rfl

/-- What stands between backticks is the only word, if anything does. -/
theorem words_of_quoted (keyword : String) {source : String}
    (is : source.toList = '`' :: (u.toList ++ ['`'])) (noTick : '`' ∉ u.toList) :
    (argumentsOf keyword source 0).words = if u = "" then [] else [u] := by
  rw [words_argumentsOf, Token.ofLine_eq, is, List.drop_zero, Token.ofChars]
  split
  · rename_i empty
    rw [empty]
    rfl
  · rename_i filled
    rw [Token.scan_quoted noTick fun nothing => filled (String.toList_eq_nil_iff.1 nothing)]
    simp

/-- **Which URLs the command accepts.** -/
theorem parse_urlLine_iff (labels? : Url.Domain.Reading) (noTick : '`' ∉ u.toList)
    (isLine : IsLine u.toList) (c : Command) :
    (ofReading labels?).parse (urlLine u) .head = .ok c
      ↔ c = .url u ∧ ∃ behind, SpellsHttps u behind ∧ IsAuthority labels? behind := by
  let source := "`" ++ u ++ "`"
  have chars : source.toList = '`' :: (u.toList ++ ['`']) := by simp [source]
  have is : (urlLine u).toList
      = "PROMPTBOOK".toList ++ ' ' :: ("URL".toList ++ ' ' :: source.toList) := by
    rw [toList_urlLine, chars]
  have trimmed : Text.Trimmed Unicode.isBlank source.toList := by
    have tick : Unicode.isBlank '`' = false := by decide
    rw [chars]
    refine ⟨fun c first => Option.some.inj first ▸ tick, fun c last => ?_⟩
    rw [← List.cons_append, List.getLast?_concat] at last
    exact Option.some.inj last ▸ tick
  have oneLine : IsLine source.toList := by
    rw [chars, ← List.singleton_append, isLine_append (by decide), isLine_append isLine]
    decide
  have used : (Directive.urlWith (Url.checkWith labels?)).isUsedIn .head = true := rfl
  have nothing : Url.checkWith labels? "" = .error .relative := rfl
  rw [ofReading,
    parse_phrase_iff source isPhrase_url is trimmed (by rw [chars]; exact List.cons_ne_nil _ _),
    and_iff_right oneLine, and_iff_right used, ← Url.check_https_iff]
  dsimp only [Directive.urlWith]
  rw [Directive.Url.parse_ok_iff, words_of_quoted _ chars noTick]
  constructor
  · rintro ⟨url, word, checked, rfl⟩
    split at word
    · cases word
    · obtain rfl : u = url := List.singleton_inj.1 word
      exact ⟨rfl, checked⟩
  · rintro ⟨rfl, checked⟩
    have filled : u ≠ "" := by
      rintro rfl
      rw [nothing] at checked
      cases checked
    exact ⟨u, if_neg filled, checked, rfl⟩

end Grammar

/-! ## Both rules -/

/-- **The two rules for pipeline URLs**, whatever the reading of domain names.  The command accepts
what spells an https URL whose authority is one, and the check what is written as it asks.  On a
text they agree exactly if, where it spells an https URL, its authority is one just when it is
written so.  A text that starts with the scheme in lower case and two slashes, and has no further
slash, nothing blank and no controls behind them, passes the check, and the command accepts it
exactly if its authority is one. -/
theorem url_rules (labels? : Url.Domain.Reading) (u : String) (noTick : '`' ∉ u.toList)
    (isLine : IsLine u.toList) :
    (∀ c, (ofReading labels?).parse (urlLine u) .head = .ok c
        ↔ c = .url u ∧ ∃ behind, SpellsHttps u behind ∧ IsAuthority labels? behind)
      ∧ (∀ p : Pipeline, p.url = some u →
        ((∀ v ∈ violations p, v.code ≠ "E001") ↔ IsPublished u))
      ∧ (((∃ c, (ofReading labels?).parse (urlLine u) .head = .ok c) ↔ IsPublished u)
        ↔ ∀ behind, SpellsHttps u behind → (IsAuthority labels? behind ↔ IsPublished u))
      ∧ ∀ behind, u.toList = "https://".toList ++ behind → behind ≠ [] →
        (∀ c ∈ behind.head?, Url.isSlash c = false) →
        (∀ c ∈ behind, Unicode.isBlank c = false ∧ Url.isControlOrSpace c = false) →
        IsPublished u
          ∧ ((∃ c, (ofReading labels?).parse (urlLine u) .head = .ok c)
            ↔ IsAuthority labels? behind) := by
  have reads := Grammar.parse_urlLine_iff labels? noTick isLine
  have accepts : (∃ c, (ofReading labels?).parse (urlLine u) .head = .ok c)
      ↔ ∃ behind, SpellsHttps u behind ∧ IsAuthority labels? behind := by
    simp only [reads, exists_eq_left]
  have accepts_of_spells {behind : List Char} (spells : SpellsHttps u behind) :
      (∃ c, (ofReading labels?).parse (urlLine u) .head = .ok c) ↔ IsAuthority labels? behind := by
    rw [accepts]
    constructor
    · rintro ⟨behind', spells', isAuthority⟩
      exact spells.unique spells' ▸ isAuthority
    · exact fun isAuthority => ⟨behind, spells, isAuthority⟩
  refine ⟨reads, fun p given => Validation.no_E001_iff given, ⟨?_, fun agree => ?_⟩, ?_⟩
  · exact fun agree behind spells => (accepts_of_spells spells).symm.trans agree
  · by_cases spelled : ∃ behind, SpellsHttps u behind
    · obtain ⟨behind, spells⟩ := spelled
      exact (accepts_of_spells spells).trans (agree behind spells)
    · refine iff_of_false (fun accepted => ?_) fun published => ?_
      · obtain ⟨behind, spells, -⟩ := accepts.1 accepted
        exact spelled ⟨behind, spells⟩
      · obtain ⟨host, rfl, -⟩ := published
        exact spelled (Url.exists_spells_of_lead ⟨host.toList, String.toList_append.symm⟩)
  · intro behind is filled first plain
    have spells := Url.spells_of_plain is (fun c member => (plain c member).2) first
    refine ⟨⟨String.ofList behind, ?_, ?_, ?_, ?_⟩, accepts_of_spells spells⟩
    · rw [← String.toList_inj, is, String.toList_append]
      exact congrArg _ String.toList_ofList.symm
    · exact fun empty => filled (by rw [← String.toList_ofList (l := behind), empty]; rfl)
    · rw [String.toList_ofList]
      intro slash
      cases first '/' slash
    · rw [is]
      exact List.forall_mem_append.2 ⟨by decide, fun c member => (plain c member).1⟩

/-- A URL with a port and a path, in the language as it is. -/
theorem url_rules_port :
    let u := "https://example.com:8080/a"
    '`' ∉ u.toList ∧ IsLine u.toList ∧ IsPublished u
      ∧ ∃ c, standard.parse (urlLine u) .head = .ok c := by
  intro u
  have noTick : '`' ∉ u.toList := by decide
  have isLine : IsLine u.toList := by decide
  have isAuthority : IsAuthority Idna.labels? "example.com:8080/a".toList :=
    Url.checkAuthority_ok_iff.1 (by decide +kernel)
  obtain ⟨-, -, -, plain⟩ := url_rules Idna.labels? u noTick isLine
  obtain ⟨published, accepts⟩ := plain "example.com:8080/a".toList (by decide) (by decide)
    (by decide) (by decide)
  rw [Grammar.standard_eq_ofReading]
  exact ⟨noTick, isLine, published, accepts.2 isAuthority⟩

/-- **The two rules differ both ways.**  The command accepts a scheme in capitals, about which the
check complains, and the check accepts a port that does not fit, which the command refuses. -/
theorem url_rules_differ :
    (∃ u p, '`' ∉ u.toList ∧ IsLine u.toList ∧ Pipeline.url p = some u
        ∧ (∃ c, standard.parse (urlLine u) .head = .ok c) ∧ ∃ v ∈ violations p, v.code = "E001")
      ∧ ∃ u p, '`' ∉ u.toList ∧ IsLine u.toList ∧ Pipeline.url p = some u
        ∧ (∀ v ∈ violations p, v.code ≠ "E001")
        ∧ ¬∃ c, standard.parse (urlLine u) .head = .ok c := by
  let published (u : String) : Pipeline := { title := "T", url := some u }
  rw [Grammar.standard_eq_ofReading]
  constructor
  · let u := "HTTPS://example.com/a"
    have noTick : '`' ∉ u.toList := by decide
    have isLine : IsLine u.toList := by decide
    have checked : Url.checkWith Idna.labels? u = .ok "https" := by decide +kernel
    have accepted := (Grammar.parse_urlLine_iff Idna.labels? noTick isLine (.url u)).2
      ⟨rfl, Url.check_https_iff.1 checked⟩
    have complains : violations (published u) = [.invalidUrl u] := by decide +kernel
    refine ⟨u, published u, noTick, isLine, rfl, ⟨_, accepted⟩, .invalidUrl u, ?_, rfl⟩
    rw [complains]
    exact List.mem_singleton_self _
  · let u := "https://a:65536"
    have noTick : '`' ∉ u.toList := by decide
    have isLine : IsLine u.toList := by decide
    have checked : Url.checkWith Idna.labels? u = .error .invalidPort := by decide +kernel
    have silent : violations (published u) = [] := by decide +kernel
    refine ⟨u, published u, noTick, isLine, rfl, ?_, ?_⟩
    · rw [silent]
      exact fun v member => nomatch member
    · rintro ⟨c, accepted⟩
      have https := Url.check_https_iff.2
        ((Grammar.parse_urlLine_iff Idna.labels? noTick isLine c).1 accepted).2
      rw [checked] at https
      cases https

end PromptPipeline
