/-
# Proofs.Collection.Members -- what is in a collection

A pipeline is inserted exactly if it is valid and its URL is free, and nothing that is
there gives way (`insert_ok_iff`, `members_insert`).  So pipelines can be collected exactly
if each of them is valid and the URLs differ, and then the members are these pipelines
(`ofPipelines_isOk_iff`, `members_ofPipelines`).

The members stand in the order of their URLs, so there is only one collection of some
members (`eq_of_perm`), in whatever order they came.
-/
import PromptPipeline.Collection.Basic
import PromptPipeline.Proofs.Edit.Run
import Mathlib.Data.List.Induction
import Mathlib.Data.List.Nodup

namespace PromptPipeline.Collection

set_option autoImplicit false

variable {c c' : Collection} {p : Pipeline} {l l' : List Pipeline} {url : String}

/-! ## Members -/

/-- A pipeline under its URL. -/
def keyed? (p : Pipeline) : Option (String × Pipeline) := p.url.map (·, p)

theorem keyed?_eq_some_iff {e : String × Pipeline} :
    keyed? p = some e ↔ p.url = some e.1 ∧ p = e.2 := by
  unfold keyed?
  rw [Option.map_eq_some_iff]
  constructor
  · rintro ⟨url, published, rfl⟩
    exact ⟨published, rfl⟩
  · rintro ⟨published, rfl⟩
    exact ⟨e.1, published, rfl⟩

theorem lookup_eq_some_iff_mem {members : List (String × Pipeline)}
    (distinct : (members.map Prod.fst).Nodup) :
    members.lookup url = some p ↔ (url, p) ∈ members := by
  induction members with
  | nil => simp
  | cons e rest ih =>
      obtain ⟨url', p'⟩ := e
      rw [List.map_cons, List.nodup_cons] at distinct
      by_cases same : url = url'
      · subst same
        have elsewhere : (url, p) ∉ rest := fun there =>
          distinct.1 (List.mem_map.2 ⟨_, there, rfl⟩)
        simp [elsewhere, eq_comm]
      · rw [List.lookup_cons, beq_false_of_ne same, List.mem_cons, ← ih distinct.2]
        simp [same]

theorem urls_nodup (c : Collection) : c.urls.Nodup := by
  refine List.Pairwise.imp ?_ c.ascending
  rintro a _ before rfl
  exact String.lt_irrefl a before

/-- **A URL finds the member under it.** -/
theorem get?_eq_some_iff : c.get? url = some p ↔ (url, p) ∈ c.members :=
  lookup_eq_some_iff_mem c.urls_nodup

theorem get?_eq_none_iff : c.get? url = none ↔ url ∉ c.urls := by
  rw [Option.eq_none_iff_forall_ne_some, urls, List.mem_map]
  constructor
  · rintro none ⟨⟨_, p⟩, member, rfl⟩
    exact none p (get?_eq_some_iff.2 member)
  · rintro fresh p found
    exact fresh ⟨(url, p), get?_eq_some_iff.1 found, rfl⟩

/-- **The members determine the collection.** -/
theorem eq_of_perm (same : c.members.Perm c'.members) : c = c' := by
  have apart : ∀ a b, a ∈ c.members → b ∈ c'.members → a.1 < b.1 → b.1 < a.1 → a = b :=
    fun _ _ _ _ before after => absurd (String.lt_trans before after) (String.lt_irrefl _)
  have members : c.members = c'.members :=
    same.eq_of_pairwise apart (List.pairwise_map.1 c.ascending) (List.pairwise_map.1 c'.ascending)
  cases c
  cases c'
  cases members
  rfl

/-! ## Inserting -/

theorem place_perm {members : List (String × Pipeline)} (free : url ∉ members.map Prod.fst) :
    (place url p members).Perm ((url, p) :: members) := by
  induction members with
  | nil => exact .refl _
  | cons e rest ih =>
      rw [List.map_cons, List.mem_cons, not_or] at free
      obtain ⟨other, freeRest⟩ := free
      rw [place]
      split
      · exact .refl _
      · exact ((ih freeRest).cons e).trans (.swap _ _ _)

/-- **Inserting needs a valid pipeline and a URL that is free.** -/
theorem insert_ok_iff :
    c.insert p = .ok c'
      ↔ Validation.validate p = .ok ()
        ∧ ∃ url, p.url = some url ∧ url ∉ c.urls ∧ c.add url p = c' := by
  unfold insert
  cases p.url with
  | none => simp
  | some url =>
      simp only [Option.some.injEq, exists_eq_left']
      cases Validation.validate p with
      | error violations => simp
      | ok _ =>
          cases found : c.get? url with
          | none => simp [get?_eq_none_iff.1 found]
          | some other =>
              have taken : ¬url ∉ c.urls := fun free => by
                rw [get?_eq_none_iff.2 free] at found
                cases found
              simp [taken]

/-- Inserting loses and replaces no member. -/
theorem members_insert (inserted : c.insert p = .ok c') :
    c'.members.Perm (c.members ++ (keyed? p).toList) := by
  obtain ⟨-, url, published, free, rfl⟩ := insert_ok_iff.1 inserted
  have is : (keyed? p).toList = [(url, p)] := by simp [keyed?, published]
  rw [is]
  exact (place_perm free).trans (List.perm_append_singleton _ _).symm

/-! ## Collecting -/

/-- Pipelines that can be in one collection: they are valid, and each has a URL of its own. -/
structure Collectable (l : List Pipeline) : Prop where
  valid : ∀ p ∈ l, Validation.validate p = .ok ()
  published : ∀ p ∈ l, ∃ url, p.url = some url
  distinct : (l.map Pipeline.url).Nodup

theorem Collectable.perm (collectable : Collectable l) (same : l'.Perm l) : Collectable l' where
  valid := fun p member => collectable.valid p (same.subset member)
  published := fun p member => collectable.published p (same.subset member)
  distinct := (same.map Pipeline.url).nodup_iff.2 collectable.distinct

theorem collectable_concat_iff :
    Collectable (l ++ [p])
      ↔ Collectable l ∧ Validation.validate p = .ok ()
        ∧ ∃ url, p.url = some url ∧ some url ∉ l.map Pipeline.url := by
  constructor
  · rintro ⟨valid, published, distinct⟩
    obtain ⟨valid, last⟩ := List.forall_mem_append.1 valid
    obtain ⟨published, published'⟩ := List.forall_mem_append.1 published
    obtain ⟨url, here⟩ := published' p List.mem_cons_self
    rw [List.map_append, List.nodup_append] at distinct
    refine ⟨⟨valid, published, distinct.1⟩, last p List.mem_cons_self, url, here, fun there => ?_⟩
    exact distinct.2.2 _ there _ List.mem_cons_self here.symm
  · rintro ⟨collectable, valid, url, published, fresh⟩
    refine ⟨?_, ?_, ?_⟩
    · exact List.forall_mem_append.2 ⟨collectable.valid, List.forall_mem_singleton.2 valid⟩
    · exact List.forall_mem_append.2
        ⟨collectable.published, List.forall_mem_singleton.2 ⟨url, published⟩⟩
    · rw [List.map_append, List.map_singleton, published, ← List.concat_eq_append]
      exact collectable.distinct.concat fresh

theorem ofPipelines_concat_iff :
    ofPipelines (l ++ [p]) = .ok c ↔ ∃ m, ofPipelines l = .ok m ∧ m.insert p = .ok c := by
  unfold ofPipelines
  rw [List.foldlM_append, Except.bind_ok_iff]
  simp only [List.foldlM_cons, List.foldlM_nil, bind_pure]

/-- **The members of a collection are the pipelines that it was made of**, each under its
URL. -/
theorem members_ofPipelines (collected : ofPipelines l = .ok c) :
    c.members.Perm (l.filterMap keyed?) := by
  induction l using List.reverseRecOn generalizing c with
  | nil =>
      cases collected
      exact .refl _
  | append_singleton l p ih =>
      obtain ⟨m, before, inserted⟩ := ofPipelines_concat_iff.1 collected
      rw [filterMap_concat]
      exact (members_insert inserted).trans ((ih before).append_right _)

theorem mem_members_iff (collected : ofPipelines l = .ok c) :
    (url, p) ∈ c.members ↔ p ∈ l ∧ p.url = some url := by
  rw [(members_ofPipelines collected).mem_iff, List.mem_filterMap]
  simp only [keyed?_eq_some_iff]
  constructor
  · rintro ⟨_, member, published, rfl⟩
    exact ⟨member, published⟩
  · rintro ⟨member, published⟩
    exact ⟨p, member, published, rfl⟩

theorem urls_ofPipelines (collected : ofPipelines l = .ok c) :
    c.urls.Perm (l.filterMap Pipeline.url) := by
  have urls : (l.filterMap keyed?).map Prod.fst = l.filterMap Pipeline.url := by
    rw [List.map_filterMap]
    refine List.filterMap_congr fun p _ => ?_
    unfold keyed?
    cases p.url <;> rfl
  exact urls ▸ (members_ofPipelines collected).map Prod.fst

theorem mem_urls_iff (collected : ofPipelines l = .ok c) :
    url ∈ c.urls ↔ some url ∈ l.map Pipeline.url := by
  rw [(urls_ofPipelines collected).mem_iff, List.mem_filterMap, List.mem_map]

/-- **Pipelines can be collected exactly if each is valid and has a URL of its own.** -/
theorem ofPipelines_isOk_iff : (∃ c, ofPipelines l = .ok c) ↔ Collectable l := by
  induction l using List.reverseRecOn with
  | nil =>
      refine iff_of_true ⟨empty, rfl⟩ ⟨?_, ?_, List.nodup_nil⟩
      · exact fun _ h => nomatch h
      · exact fun _ h => nomatch h
  | append_singleton l p ih =>
      rw [collectable_concat_iff, ← ih]
      simp only [ofPipelines_concat_iff, insert_ok_iff]
      constructor
      · rintro ⟨c, m, before, valid, url, published, free, rfl⟩
        exact ⟨⟨m, before⟩, valid, url, published, fun there =>
          free ((mem_urls_iff before).2 there)⟩
      · rintro ⟨⟨m, before⟩, valid, url, published, fresh⟩
        exact ⟨m.add url p, m, before, valid, url, published, fun there =>
          fresh ((mem_urls_iff before).1 there), rfl⟩

/-- The order of the pipelines does not matter. -/
theorem ofPipelines_perm (same : l'.Perm l) (collected : ofPipelines l = .ok c) :
    ofPipelines l' = .ok c := by
  have collectable := ofPipelines_isOk_iff.1 ⟨c, collected⟩
  obtain ⟨c', collected'⟩ := ofPipelines_isOk_iff.2 (collectable.perm same)
  have members : c'.members.Perm c.members :=
    (members_ofPipelines collected').trans
      ((same.filterMap keyed?).trans (members_ofPipelines collected).symm)
  rw [collected', eq_of_perm members]

theorem get_eq_ok_iff (collected : ofPipelines l = .ok c) :
    c.get url = .ok p ↔ p ∈ l ∧ p.url = some url := by
  rw [← mem_members_iff collected, ← get?_eq_some_iff]
  unfold get
  cases c.get? url <;> simp

theorem get_eq_error (free : url ∉ c.urls) :
    c.get url = .error (.collection none (.notFound url c.urls)) := by
  unfold get
  rw [get?_eq_none_iff.2 free]

theorem size_ofPipelines (collected : ofPipelines l = .ok c) : c.size = l.length := by
  have published := (ofPipelines_isOk_iff.1 ⟨c, collected⟩).published
  unfold size
  rw [(members_ofPipelines collected).length_eq]
  refine List.filterMap_length_eq_length.2 fun p member => ?_
  obtain ⟨url, here⟩ := published p member
  simp [keyed?, here]

/-- **What is collected**: valid pipelines with URLs of their own, and no others.  Their
collection has as many members, finds each of them under its URL and nothing under another
one, tells the URLs in ascending order, and is the same in whatever order they come. -/
theorem ofPipelines_collects (l : List Pipeline) :
    ((∃ c, ofPipelines l = .ok c) ↔ Collectable l)
      ∧ ∀ c, ofPipelines l = .ok c →
        c.size = l.length
          ∧ (∀ url p, c.get url = .ok p ↔ p ∈ l ∧ p.url = some url)
          ∧ (∀ url, (∀ p ∈ l, p.url ≠ some url) →
            c.get url = .error (.collection none (.notFound url c.urls)))
          ∧ c.urls.Perm (l.filterMap Pipeline.url)
          ∧ c.urls.Pairwise (· < ·)
          ∧ ∀ l', l'.Perm l → ofPipelines l' = .ok c := by
  refine ⟨ofPipelines_isOk_iff, fun c collected => ?_⟩
  refine ⟨size_ofPipelines collected, fun _ _ => get_eq_ok_iff collected, fun url other => ?_,
    urls_ofPipelines collected, c.ascending, fun _ same => ofPipelines_perm same collected⟩
  refine get_eq_error fun there => ?_
  obtain ⟨p, member, published⟩ := List.mem_map.1 ((mem_urls_iff collected).1 there)
  exact other p member published

/-- Two pipelines, the later URL first. -/
theorem ofPipelines_collects_two :
    let p : Pipeline := { title := "P", url := some "https://a.org/1" }
    let q : Pipeline := { title := "Q", url := some "https://a.org/2" }
    ∃ c, ofPipelines [q, p] = .ok c ∧ ofPipelines [p, q] = .ok c ∧ c.size = 2
      ∧ c.get "https://a.org/1" = .ok p
      ∧ c.get "https://a.org/3" = .error (.collection none (.notFound "https://a.org/3" c.urls)) := by
  intro p q
  obtain ⟨collects, holds⟩ := ofPipelines_collects [q, p]
  have collectable : Collectable [q, p] := {
    valid := by decide
    published := by simp [p, q]
    distinct := by decide }
  obtain ⟨c, collected⟩ := collects.2 collectable
  obtain ⟨size, get, missing, -, -, same⟩ := holds c collected
  refine ⟨c, collected, same _ (List.Perm.swap _ _ _), size, ?_, missing _ (by decide)⟩
  exact (get _ _).2 ⟨by decide, rfl⟩

end PromptPipeline.Collection
