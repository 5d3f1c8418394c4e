/-
# Proofs.Grammar.Build -- which directives form a grammar

Building a grammar claims the keywords of its directives, in their canonical spelling, and
the kinds of command that they produce, one after the other, and refuses what has been
claimed before.  So a list is claimed exactly if it is `Unclaimed`: nothing in it has been
claimed, and nothing comes twice (`foldlM_claim_ok_iff`).  A blank keyword is refused as if
it had been claimed before all others.  With all claims made

* `build_ok_iff`: a grammar is built exactly from directives that are `Distinguishable`, and
  then has all of their keywords;
* `get?_eq_find?`: a text finds the first directive that answers to it, which is the only one
  where nothing is claimed twice (`filter_eq_find?`).
-/
import PromptPipeline.Proofs.Edit.Run
import PromptPipeline.Proofs.Grammar.Standard
import Mathlib.Data.List.Nodup

namespace PromptPipeline

set_option autoImplicit false

/-! ## Claiming one after the other -/

/-- Nothing in the list has been claimed, and nothing comes twice. -/
structure Unclaimed {κ : Type} (claimed keys : List κ) : Prop where
  fresh : ∀ key ∈ keys, key ∉ claimed
  distinct : keys.Nodup

section Unclaimed

variable {κ : Type} {claimed keys more : List κ} {key : κ}

theorem unclaimed_nil (claimed : List κ) : Unclaimed claimed [] where
  fresh := fun _ h => nomatch h
  distinct := List.nodup_nil

/-- What comes later must not have been claimed by what came before. -/
theorem unclaimed_append_iff :
    Unclaimed claimed (keys ++ more)
      ↔ Unclaimed claimed keys ∧ Unclaimed (claimed ++ keys) more := by
  constructor
  · rintro ⟨fresh, distinct⟩
    obtain ⟨fresh₁, fresh₂⟩ := List.forall_mem_append.1 fresh
    obtain ⟨distinct₁, distinct₂, apart⟩ := List.nodup_append.1 distinct
    refine ⟨⟨fresh₁, distinct₁⟩, fun k hk member => ?_, distinct₂⟩
    rcases List.mem_append.1 member with before | among
    · exact fresh₂ k hk before
    · exact apart k among k hk rfl
  · rintro ⟨⟨fresh₁, distinct₁⟩, fresh₂, distinct₂⟩
    refine ⟨List.forall_mem_append.2 ⟨fresh₁, fun k hk before => ?_⟩, ?_⟩
    · exact fresh₂ k hk (List.mem_append_left _ before)
    · refine List.nodup_append.2 ⟨distinct₁, distinct₂, ?_⟩
      rintro k among _ hk rfl
      exact fresh₂ k hk (List.mem_append_right _ among)

theorem unclaimed_cons_iff :
    Unclaimed claimed (key :: more) ↔ key ∉ claimed ∧ Unclaimed (claimed ++ [key]) more := by
  have first : Unclaimed claimed [key] ↔ key ∉ claimed := by
    constructor
    · intro free
      exact free.fresh key (List.mem_singleton_self key)
    · intro fresh
      exact ⟨List.forall_mem_singleton.2 fresh, List.nodup_singleton key⟩
  rw [← List.singleton_append, unclaimed_append_iff, first]

/-- A list is claimed in turn exactly if it is unclaimed. -/
theorem foldlM_claim_ok_iff {α σ ε : Type} {step : σ → α → Except ε σ} {add : σ → α → σ}
    {claimed : σ → List κ} {key : α → κ}
    (adds : ∀ s a, claimed (add s a) = claimed s ++ [key a])
    (does : ∀ s a s', step s a = .ok s' ↔ key a ∉ claimed s ∧ s' = add s a)
    (l : List α) {s s' : σ} :
    l.foldlM step s = .ok s' ↔ Unclaimed (claimed s) (l.map key) ∧ s' = l.foldl add s := by
  induction l generalizing s with
  | nil =>
      rw [List.foldlM_nil, List.foldl_nil]
      constructor
      · intro ran
        exact ⟨unclaimed_nil (claimed s), (Except.ok.inj ran).symm⟩
      · rintro ⟨-, same⟩
        exact congrArg Except.ok same.symm
  | cons a rest ih =>
      rw [List.foldlM_cons, Except.bind_ok_iff, List.map_cons, unclaimed_cons_iff, ← adds,
        List.foldl_cons, and_assoc, ← ih]
      constructor
      · rintro ⟨m, first, others⟩
        obtain ⟨fresh, rfl⟩ := (does s a m).1 first
        exact ⟨fresh, others⟩
      · rintro ⟨fresh, others⟩
        exact ⟨add s a, (does s a _).2 ⟨fresh, rfl⟩, others⟩

end Unclaimed

/-! ## Directives that can be told apart -/

namespace Directive

/-- The name and the aliases in their canonical spelling. -/
def spellings (d : Directive) : List String := d.keywords.map Keyword.canonical

/-- Whether a text is the name or an alias, in any spelling. -/
def answersTo (d : Directive) (text : String) : Bool :=
  d.spellings.contains (Keyword.canonical text)

end Directive

namespace Grammar

/-- Every directive may stand somewhere; no keyword is blank and no two, of one directive or
of several, are spelled alike; and no kind of command is produced twice. -/
structure Distinguishable (directives : List Directive) : Prop where
  usable : ∀ d ∈ directives, d.places ≠ []
  spelled : "" ∉ directives.flatMap Directive.spellings
  keywords : (directives.flatMap Directive.spellings).Nodup
  kinds : (directives.flatMap Directive.produces).Nodup

/-! ## Claims -/

namespace Claims

variable {claims claims' : Claims} {d : Directive}

/-- The spellings that can not be claimed any more. -/
def spellings (claims : Claims) : List String := "" :: claims.keywords.map Prod.fst

/-- The kinds that can not be claimed any more. -/
def produced (claims : Claims) : List Command.Kind := claims.kinds.map Prod.fst

/-- With a keyword in its canonical spelling. -/
def withKeyword (d : Directive) (claims : Claims) (keyword : String) : Claims :=
  { claims with
    keywords := claims.keywords ++ [(Keyword.canonical keyword, d)]
    longest := max claims.longest (Keyword.wordCount (Keyword.canonical keyword)) }

/-- With a kind of command. -/
def withKind (d : Directive) (claims : Claims) (kind : Command.Kind) : Claims :=
  { claims with kinds := claims.kinds ++ [(kind, d)] }

/-- With all that a directive is known by. -/
def withDirective (claims : Claims) (d : Directive) : Claims :=
  d.produces.foldl (withKind d) (d.keywords.foldl (withKeyword d) claims)

theorem spellings_withKeyword (claims : Claims) (keyword : String) :
    (claims.withKeyword d keyword).spellings
      = claims.spellings ++ [Keyword.canonical keyword] := by
  simp [spellings, withKeyword]

theorem produced_withKind (claims : Claims) (kind : Command.Kind) :
    (claims.withKind d kind).produced = claims.produced ++ [kind] := by
  simp [produced, withKind]

theorem keywords_foldl_withKeyword (keywords : List String) (claims : Claims) :
    (keywords.foldl (withKeyword d) claims).keywords
        = claims.keywords ++ keywords.map fun keyword => (Keyword.canonical keyword, d) := by
  induction keywords generalizing claims with
  | nil => simp
  | cons keyword rest ih => simp [ih, withKeyword]

theorem kinds_foldl_withKeyword (keywords : List String) (claims : Claims) :
    (keywords.foldl (withKeyword d) claims).kinds = claims.kinds := by
  induction keywords generalizing claims with
  | nil => rfl
  | cons keyword rest ih => rw [List.foldl_cons, ih, withKeyword]

theorem keywords_foldl_withKind (kinds : List Command.Kind) (claims : Claims) :
    (kinds.foldl (withKind d) claims).keywords = claims.keywords := by
  induction kinds generalizing claims with
  | nil => rfl
  | cons kind rest ih => rw [List.foldl_cons, ih, withKind]

theorem kinds_foldl_withKind (kinds : List Command.Kind) (claims : Claims) :
    (kinds.foldl (withKind d) claims).kinds = claims.kinds ++ kinds.map fun kind => (kind, d) := by
  induction kinds generalizing claims with
  | nil => simp
  | cons kind rest ih => simp [ih, withKind]

theorem keywords_withDirective (claims : Claims) (d : Directive) :
    (claims.withDirective d).keywords = claims.keywords ++ d.spellings.map fun s => (s, d) := by
  rw [withDirective, keywords_foldl_withKind, keywords_foldl_withKeyword, Directive.spellings,
    List.map_map]
  rfl

theorem spellings_withDirective (claims : Claims) (d : Directive) :
    (claims.withDirective d).spellings = claims.spellings ++ d.spellings := by
  rw [spellings, keywords_withDirective, List.map_append, List.map_map]
  exact congrArg (fun l => _ :: (_ ++ l)) (List.map_id _)

theorem produced_withDirective (claims : Claims) (d : Directive) :
    (claims.withDirective d).produced = claims.produced ++ d.produces := by
  rw [produced, withDirective, kinds_foldl_withKind, kinds_foldl_withKeyword, List.map_append,
    List.map_map]
  exact congrArg _ (List.map_id _)

theorem keywords_foldl_withDirective (directives : List Directive) (claims : Claims) :
    (directives.foldl withDirective claims).keywords
      = claims.keywords ++ directives.flatMap fun d => d.spellings.map fun s => (s, d) := by
  induction directives generalizing claims with
  | nil => simp
  | cons d rest ih =>
      rw [List.foldl_cons, ih, keywords_withDirective, List.flatMap_cons, List.append_assoc]

theorem longest_foldl_withKeyword (keywords : List String) (claims : Claims) :
    (keywords.foldl (withKeyword d) claims).longest
      = (keywords.map Keyword.canonical).foldl (fun n s => max n (Keyword.wordCount s))
          claims.longest := by
  induction keywords generalizing claims with
  | nil => rfl
  | cons keyword rest ih => rw [List.foldl_cons, ih, List.map_cons, List.foldl_cons, withKeyword]

theorem longest_foldl_withKind (kinds : List Command.Kind) (claims : Claims) :
    (kinds.foldl (withKind d) claims).longest = claims.longest := by
  induction kinds generalizing claims with
  | nil => rfl
  | cons kind rest ih => rw [List.foldl_cons, ih, withKind]

/-- The longest keyword is the longest of all that are claimed. -/
theorem longest_foldl_withDirective (directives : List Directive) (claims : Claims) :
    (directives.foldl withDirective claims).longest
      = (directives.flatMap Directive.spellings).foldl (fun n s => max n (Keyword.wordCount s))
          claims.longest := by
  induction directives generalizing claims with
  | nil => rfl
  | cons d rest ih =>
      rw [List.foldl_cons, ih, withDirective, longest_foldl_withKind, longest_foldl_withKeyword,
        List.flatMap_cons, List.foldl_append, Directive.spellings]

/-! ## What can be claimed -/

theorem lookup_eq_none_iff_notMem {κ : Type} [BEq κ] [LawfulBEq κ] {entries : List (κ × Directive)}
    {key : κ} : entries.lookup key = none ↔ key ∉ entries.map Prod.fst := by
  rw [List.lookup_eq_none_iff, List.mem_map]
  constructor
  · rintro none ⟨entry, member, rfl⟩
    exact bne_iff_ne.1 (none entry member) rfl
  · intro missing entry member
    refine bne_iff_ne.2 ?_
    rintro rfl
    exact missing ⟨entry, member, rfl⟩

theorem addKeyword_ok_iff {keyword : String} :
    addKeyword d claims keyword = .ok claims'
      ↔ Keyword.canonical keyword ∉ claims.spellings ∧ claims' = claims.withKeyword d keyword := by
  rw [spellings, List.mem_cons, not_or, ← lookup_eq_none_iff_notMem]
  unfold addKeyword withKeyword
  dsimp only
  generalize Keyword.canonical keyword = canonical
  by_cases blank : canonical = ""
  · simp [blank]
  · rw [if_neg (by simpa using blank)]
    cases claims.keywords.lookup canonical with
    | none =>
        simp only [blank, not_false_eq_true, and_true, true_and, Except.ok.injEq]
        exact eq_comm
    | some owner => simp

theorem addKind_ok_iff {kind : Command.Kind} :
    addKind d claims kind = .ok claims'
      ↔ kind ∉ claims.produced ∧ claims' = claims.withKind d kind := by
  rw [produced, ← lookup_eq_none_iff_notMem]
  unfold addKind withKind
  cases claims.kinds.lookup kind with
  | none =>
      simp only [true_and, Except.ok.injEq]
      exact eq_comm
  | some owner => simp

theorem addDirective_ok_iff :
    addDirective claims d = .ok claims'
      ↔ (d.places ≠ [] ∧ Unclaimed claims.spellings d.spellings
          ∧ Unclaimed claims.produced d.produces)
        ∧ claims' = claims.withDirective d := by
  have keywords : ∀ named, d.keywords.foldlM (addKeyword d) claims = .ok named
      ↔ Unclaimed claims.spellings d.spellings
        ∧ named = d.keywords.foldl (withKeyword d) claims := fun named =>
    foldlM_claim_ok_iff spellings_withKeyword (fun _ _ _ => addKeyword_ok_iff) d.keywords
  have kinds : ∀ named : Claims, d.produces.foldlM (addKind d) named = .ok claims'
      ↔ Unclaimed named.produced (d.produces.map id)
        ∧ claims' = d.produces.foldl (withKind d) named := fun named =>
    foldlM_claim_ok_iff produced_withKind (fun _ _ _ => addKind_ok_iff) d.produces
  have produced : (d.keywords.foldl (withKeyword d) claims).produced = claims.produced := by
    rw [Claims.produced, kinds_foldl_withKeyword]
    rfl
  unfold addDirective
  by_cases unusable : d.places = []
  · simp [unusable]
  · rw [if_neg (by simpa using unusable), Except.bind_ok_iff]
    simp only [keywords, kinds, List.map_id]
    constructor
    · rintro ⟨named, ⟨freeKeywords, rfl⟩, freeKinds, same⟩
      exact ⟨⟨unusable, freeKeywords, produced ▸ freeKinds⟩, same⟩
    · rintro ⟨⟨-, freeKeywords, freeKinds⟩, same⟩
      exact ⟨_, ⟨freeKeywords, rfl⟩, produced.symm ▸ freeKinds, same⟩

/-- Directives can be claimed if all may stand somewhere and what they claim is unclaimed. -/
theorem foldlM_addDirective_ok_iff (directives : List Directive) :
    directives.foldlM addDirective claims = .ok claims'
      ↔ ((∀ d ∈ directives, d.places ≠ [])
          ∧ Unclaimed claims.spellings (directives.flatMap Directive.spellings)
          ∧ Unclaimed claims.produced (directives.flatMap Directive.produces))
        ∧ claims' = directives.foldl withDirective claims := by
  induction directives generalizing claims with
  | nil =>
      constructor
      · intro ran
        cases ran
        exact ⟨⟨(fun _ h => nomatch h), unclaimed_nil _, unclaimed_nil _⟩, rfl⟩
      · rintro ⟨-, rfl⟩
        rfl
  | cons d rest ih =>
      rw [List.foldlM_cons, Except.bind_ok_iff, List.forall_mem_cons, List.flatMap_cons,
        List.flatMap_cons, unclaimed_append_iff, unclaimed_append_iff, ← spellings_withDirective,
        ← produced_withDirective, List.foldl_cons]
      constructor
      · rintro ⟨m, first, others⟩
        obtain ⟨⟨usable, keywords, kinds⟩, rfl⟩ := addDirective_ok_iff.1 first
        obtain ⟨⟨usables, keywords', kinds'⟩, same⟩ := ih.1 others
        exact ⟨⟨⟨usable, usables⟩, ⟨keywords, keywords'⟩, kinds, kinds'⟩, same⟩
      · rintro ⟨⟨⟨usable, usables⟩, ⟨keywords, keywords'⟩, kinds, kinds'⟩, same⟩
        exact ⟨_, addDirective_ok_iff.2 ⟨⟨usable, keywords, kinds⟩, rfl⟩,
          ih.2 ⟨⟨usables, keywords', kinds'⟩, same⟩⟩

end Claims

/-! ## Grammars -/

variable {directives : List Directive} {g : Grammar}

/-- **A grammar is built exactly from directives that can be told apart.** -/
theorem build_ok_iff :
    build directives = .ok g ↔ Distinguishable directives
      ∧ g = ⟨directives, directives.flatMap fun d => d.spellings.map fun s => (s, d),
        (directives.foldl Claims.withDirective {}).longest⟩ := by
  have keywords : (directives.foldl Claims.withDirective {}).keywords
      = directives.flatMap fun d => d.spellings.map fun s => (s, d) :=
    Claims.keywords_foldl_withDirective directives {}
  unfold build
  rw [Except.bind_ok_iff, ← keywords]
  simp only [Claims.foldlM_addDirective_ok_iff]
  constructor
  · rintro ⟨claims, ⟨⟨usable, named, kinds⟩, rfl⟩, same⟩
    cases same
    refine ⟨⟨usable, fun blank => ?_, named.distinct, kinds.distinct⟩, rfl⟩
    exact named.fresh "" blank List.mem_cons_self
  · rintro ⟨⟨usable, spelled, named, kinds⟩, rfl⟩
    refine ⟨_, ⟨⟨usable, ⟨fun s member claimed => ?_, named⟩, ⟨fun _ _ h => ?_, kinds⟩⟩, rfl⟩, rfl⟩
    · rw [List.mem_singleton.1 claimed] at member
      exact spelled member
    · cases h

/-! ## The language -/

section Language

variable (check : String → Except Url.Fault String)

theorem spellings_catalogWith : (catalogWith check).flatMap Directive.spellings
    = catalog.flatMap Directive.spellings := rfl

theorem produces_catalogWith : (catalogWith check).flatMap Directive.produces
    = catalog.flatMap Directive.produces := rfl

theorem distinguishable_catalogWith : Distinguishable (catalogWith check) := by
  obtain ⟨⟨usable, spelled, keywords, kinds⟩, -⟩ := build_ok_iff.1 build_catalog
  have places : (catalogWith check).map Directive.places = catalog.map Directive.places := rfl
  constructor
  case usable =>
    intro d member
    have among : d.places ∈ catalog.map Directive.places := by
      rw [← places]
      exact List.mem_map_of_mem member
    obtain ⟨d', member', same⟩ := List.mem_map.1 among
    rw [← same]
    exact usable d' member'
  case spelled =>
    rw [spellings_catalogWith]
    exact spelled
  case keywords =>
    rw [spellings_catalogWith]
    exact keywords
  case kinds =>
    rw [produces_catalogWith]
    exact kinds

/-- **The directives of the language form a grammar**, whatever the check of URLs. -/
theorem build_catalogWith : build (catalogWith check) = .ok (standardWith check) := by
  obtain ⟨g, built⟩ : ∃ g, build (catalogWith check) = .ok g :=
    ⟨_, build_ok_iff.2 ⟨distinguishable_catalogWith check, rfl⟩⟩
  unfold standardWith
  rw [built]

theorem longest_standardWith : (standardWith check).longest = standard.longest := by
  obtain ⟨-, is⟩ := build_ok_iff.1 (build_catalogWith check)
  obtain ⟨-, is'⟩ := build_ok_iff.1 build_catalog
  rw [is, is']
  dsimp only
  rw [Claims.longest_foldl_withDirective, Claims.longest_foldl_withDirective,
    spellings_catalogWith]

end Language

/-! ## Looking up -/

/-- Among entries under all their keys, a key finds the first entry that has it. -/
theorem lookup_flatMap {α κ : Type} [BEq κ] [LawfulBEq κ] (keys : α → List κ) (key : κ)
    (l : List α) :
    (l.flatMap fun a => (keys a).map fun k => (k, a)).lookup key
      = l.find? fun a => (keys a).contains key := by
  induction l with
  | nil => rfl
  | cons a rest ih =>
      have here : ((keys a).map fun k => (k, a)).lookup key
          = if (keys a).contains key then some a else none := by
        induction keys a with
        | nil => rfl
        | cons k ks ih =>
            rw [List.map_cons, List.lookup_cons, List.contains_cons, ih]
            cases key == k <;> rfl
      rw [List.flatMap_cons, List.lookup_append, here, ih, List.find?_cons]
      cases (keys a).contains key <;> rfl

/-- Where no key comes twice, the first entry that has a key is the only one. -/
theorem filter_eq_find? {α κ : Type} [BEq κ] [LawfulBEq κ] {keys : α → List κ} {l : List α}
    (distinct : (l.flatMap keys).Nodup) (key : κ) :
    l.filter (fun a => (keys a).contains key)
      = (l.find? fun a => (keys a).contains key).toList := by
  induction l with
  | nil => rfl
  | cons a rest ih =>
      rw [List.flatMap_cons] at distinct
      obtain ⟨-, others, apart⟩ := List.nodup_append.1 distinct
      rw [List.filter_cons, List.find?_cons]
      cases has : (keys a).contains key with
      | true =>
          have none : rest.filter (fun b => (keys b).contains key) = [] := by
            refine List.filter_eq_nil_iff.2 fun b member hasToo => ?_
            exact apart key (by simpa using has) key
              (List.mem_flatMap.2 ⟨b, member, by simpa using hasToo⟩) rfl
          rw [if_pos rfl, none]
          rfl
      | false => rw [if_neg Bool.false_ne_true, ih others]

/-- A text finds the first directive that answers to it. -/
theorem get?_eq_find? (built : build directives = .ok g) (text : String) :
    g.get? text = directives.find? (·.answersTo text) := by
  obtain ⟨-, rfl⟩ := build_ok_iff.1 built
  exact lookup_flatMap Directive.spellings (Keyword.canonical text) directives

/-- **Directives form a grammar exactly if they can be told apart**, and then a text finds the
one directive that answers to it and a kind of command the one that produces it, if there
is one. -/
theorem build_distinguishes (directives : List Directive) :
    ((∃ g, build directives = .ok g) ↔ Distinguishable directives)
      ∧ ∀ g, build directives = .ok g →
        (∀ text, (g.get? text).toList = directives.filter (·.answersTo text))
          ∧ ∀ kind, (g.directiveFor? kind).toList
            = directives.filter (·.produces.contains kind) := by
  refine ⟨⟨?_, fun apart => ⟨_, build_ok_iff.2 ⟨apart, rfl⟩⟩⟩, fun g built => ⟨?_, ?_⟩⟩
  · rintro ⟨g, built⟩
    exact (build_ok_iff.1 built).1
  · intro text
    have apart := (build_ok_iff.1 built).1
    rw [get?_eq_find? built]
    exact (filter_eq_find? apart.keywords (Keyword.canonical text)).symm
  · intro kind
    have apart := (build_ok_iff.1 built).1
    rw [directiveFor?, directives_of_build built]
    exact (filter_eq_find? apart.kinds kind).symm

/-- The directives of the language form a grammar, in which any spelling of a keyword finds
its directive; with one of them under a second name they do not. -/
theorem build_distinguishes_catalog :
    (∃ g, build catalog = .ok g)
      ∧ (standard.get? "Post  _process").toList.map (·.name) = ["POSTPROCESS"]
      ∧ ¬∃ g, build (catalog ++ [{ Directive.url with name := "LINK", produces := [] }])
        = .ok g := by
  have clash : ¬((catalog ++ [{ Directive.url with name := "LINK", produces := [] }]).flatMap
      Directive.spellings).Nodup := by
    decide +kernel
  refine ⟨⟨standard, build_catalog⟩, ?_, ?_⟩
  · rw [((build_distinguishes catalog).2 standard build_catalog).1]
    decide +kernel
  · rw [(build_distinguishes _).1]
    exact fun apart => clash apart.keywords

end Grammar

end PromptPipeline
