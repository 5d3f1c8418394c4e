/-
# Proofs.Validation.Cycles -- what the reports of cycles say

A template depends on the first producers of its dependents.  `reportedCycles_exact` says
what the reports of cycles are worth in any pipeline, also where a parameter is produced more
than once or a template stands on several cycles:

* each one runs once along the flow of the parameters and comes back (`IsCircular`);
* no two of them name one parameter;
* from a template on a cycle, going back along its dependencies comes to a reported one.

`walk` keeps a path without repetition (`IsPath`), whose end is a cycle as soon as a template
comes again.  What has been reported is only ever extended, which gives both that later cycles
are apart from it (`mem_cyclesFrom`) and that a start that is passed over leads to it
(`cyclesFrom_covers`).
-/
import PromptPipeline.Proofs.Validation.Census
import Mathlib.Data.List.Chain
import Mathlib.Logic.Relation

namespace PromptPipeline.Validation

set_option autoImplicit false

open Relation (TransGen ReflTransGen)

/-! ## Cycles of a graph -/

namespace Graph

/-- Whether one template waits for another. -/
def Waits (g : Graph) (i j : Nat) : Prop := j ∈ g.waitsFor i

/-- Templates of which each waits for the next one and the last for the first. -/
structure IsCycle (g : Graph) (cycle : List Nat) : Prop where
  nonempty : cycle ≠ []
  nodup : cycle.Nodup
  chain : cycle.IsChain g.Waits
  closes : ∀ last ∈ cycle.getLast?, ∀ first ∈ cycle.head?, g.Waits last first

theorem pairwise_transGen {g : Graph} {l : List Nat} (chain : l.IsChain g.Waits) :
    l.Pairwise (TransGen g.Waits) :=
  (chain.imp fun _ _ => TransGen.single).pairwise

/-- A cycle is closed by putting its last template before it. -/
theorem IsCycle.around {g : Graph} {cycle : List Nat} (circular : g.IsCycle cycle) :
    ∃ front last, cycle = front ++ [last] ∧ (last :: (front ++ [last])).IsChain g.Waits := by
  obtain ⟨front, last, split⟩ := cycle.eq_nil_or_concat.resolve_left circular.nonempty
  rw [List.concat_eq_append] at split
  subst split
  exact ⟨front, last, rfl, List.isChain_cons.2 ⟨circular.closes last (by simp), circular.chain⟩⟩

/-- A template on a cycle comes back to itself. -/
theorem IsCycle.comes_back {g : Graph} {cycle : List Nat} (circular : g.IsCycle cycle) {i : Nat}
    (member : i ∈ cycle) : TransGen g.Waits i i := by
  obtain ⟨front, last, rfl, around⟩ := circular.around
  obtain ⟨fromLast, along⟩ := List.pairwise_cons.1 (pairwise_transGen around)
  rcases List.mem_append.1 member with inFront | isLast
  · have toLast : TransGen g.Waits i last :=
      (List.pairwise_append.1 along).2.2 i inFront last (by simp)
    exact toLast.trans (fromLast i member)
  · obtain rfl : i = last := List.mem_singleton.1 isLast
    exact fromLast i member

theorem IsCycle.exists_waits {g : Graph} {cycle : List Nat} (circular : g.IsCycle cycle) {i : Nat}
    (member : i ∈ cycle) : ∃ k, g.Waits k i := by
  obtain ⟨k, -, waits⟩ := TransGen.tail'_iff.1 (circular.comes_back member)
  exact ⟨k, waits⟩

/-- A sorted template depends only on those sorted before it. -/
theorem idxOf_lt_of_transGen {g : Graph} {i j : Nat} (depends : TransGen g.Waits i j)
    (isSorted : i ∈ g.sorted) : j ∈ g.sorted ∧ g.sorted.idxOf j < g.sorted.idxOf i := by
  have step : ∀ {k j : Nat}, k ∈ g.sorted → g.Waits k j →
      j ∈ g.sorted ∧ g.sorted.idxOf j < g.sorted.idxOf k := by
    intro k j member waits
    have lower := idxOf_lt_of_isOrder (sorted_isOrder g) member waits
    exact ⟨List.idxOf_lt_length_iff.1 (lower.trans_le List.idxOf_le_length), lower⟩
  induction depends with
  | single waits => exact step isSorted waits
  | tail _ waits ih =>
      obtain ⟨member, lower⟩ := ih
      obtain ⟨last, lowest⟩ := step member waits
      exact ⟨last, lowest.trans lower⟩

theorem not_sorted_of_transGen {g : Graph} {i : Nat} (back : TransGen g.Waits i i) :
    i ∉ g.sorted :=
  fun isSorted => Nat.lt_irrefl _ (idxOf_lt_of_transGen back isSorted).2

/-! ## Going back -/

/-- A way from one template to the first of the path, which is given in reverse. -/
structure IsPath (g : Graph) (start : Nat) (path : List Nat) : Prop where
  nodup : path.Nodup
  chain : path.IsChain fun j i => g.Waits i j
  reached : ∀ i ∈ path, ReflTransGen g.Waits start i

theorem isPath_singleton (g : Graph) (start : Nat) : g.IsPath start [start] where
  nodup := List.nodup_singleton start
  chain := List.isChain_singleton start
  reached := by
    intro i member
    rw [List.mem_singleton.1 member]

theorem IsPath.cons {g : Graph} {start current next : Nat} {before : List Nat}
    (path : g.IsPath start (current :: before)) (waits : g.Waits current next)
    (fresh : next ∉ current :: before) : g.IsPath start (next :: current :: before) where
  nodup := List.nodup_cons.2 ⟨fresh, path.nodup⟩
  chain := List.isChain_cons_cons.2 ⟨waits, path.chain⟩
  reached := List.forall_mem_cons.2
    ⟨(path.reached current List.mem_cons_self).tail waits, path.reached⟩

/-- Where a path comes again to one of its templates, a cycle ends it. -/
theorem IsPath.isCycle {g : Graph} {start current next : Nat} {before : List Nat}
    (path : g.IsPath start (current :: before)) (waits : g.Waits current next)
    (again : next ∈ current :: before) :
    g.IsCycle ((current :: before).reverse.dropWhile (· != next)) := by
  obtain ⟨front, rest, split, first⟩ :=
    List.eq_append_cons_of_mem (List.mem_reverse.2 again)
  have ending : (current :: before).reverse.dropWhile (· != next) = next :: rest := by
    have others : ∀ i ∈ front, (i != next) = true := by
      intro i member
      rw [bne_iff_ne]
      rintro rfl
      exact first member
    rw [split, List.dropWhile_append_of_pos others, List.dropWhile_cons_of_neg (by simp)]
  have suffix : next :: rest <:+ (current :: before).reverse := ⟨front, split.symm⟩
  have last : (next :: rest).getLast? = some current := by
    have whole := congrArg List.getLast? split
    rw [List.getLast?_append_of_ne_nil _ (by simp)] at whole
    simpa using whole.symm
  rw [ending]
  refine ⟨List.cons_ne_nil next rest, ?_, ?_, ?_⟩
  · exact (List.nodup_reverse.2 path.nodup).sublist suffix.sublist
  · exact (List.isChain_reverse.2 path.chain).suffix suffix
  · intro k isLast i isFirst
    rw [last] at isLast
    obtain rfl : current = k := by simpa using isLast
    obtain rfl : next = i := by simpa using isFirst
    exact waits

/-- What going back comes to is a cycle, and all of it is reached. -/
theorem walk_eq_some {g : Graph} {sorted : List Nat} {start : Nat} {cycle : List Nat} :
    ∀ (fuel : Nat) (path : List Nat), g.IsPath start path →
      g.walk sorted fuel path = some cycle →
      g.IsCycle cycle ∧ ∀ i ∈ cycle, ReflTransGen g.Waits start i
  | 0, _, _, found => by rw [walk] at found; cases found
  | _ + 1, [], _, found => by
      rw [walk] at found
      · cases found
      · exact Nat.succ_ne_zero _
  | fuel + 1, current :: before, path, found => by
      rw [walk] at found
      split at found
      · cases found
      · rename_i next opened
        have waits : g.Waits current next := (mem_of_openPredecessor? opened).1
        split at found
        · rename_i again
          cases found
          refine ⟨path.isCycle waits (List.contains_iff_mem.1 again), fun i member => ?_⟩
          have inside := (List.dropWhile_suffix _).subset member
          exact path.reached i (List.mem_reverse.1 inside)
        · rename_i fresh
          exact walk_eq_some fuel _ (path.cons waits (by simpa using fresh)) found

theorem cycleFrom?_eq_some {g : Graph} {sorted : List Nat} {start : Nat} {cycle : List Nat}
    (found : g.cycleFrom? sorted start = some cycle) :
    g.IsCycle cycle ∧ ∀ i ∈ cycle, ReflTransGen g.Waits start i :=
  walk_eq_some _ _ (isPath_singleton g start) found

/-! ## What has been reported -/

variable {g : Graph} {sorted : List Nat}

/-- A cycle is reported only apart from those before it. -/
theorem mem_cyclesFrom {reported l cycle : List Nat}
    (member : cycle ∈ g.cyclesFrom sorted reported l) :
    g.IsCycle cycle ∧ cycle.Disjoint reported := by
  induction l generalizing reported with
  | nil => cases member
  | cons i rest ih =>
      rw [cyclesFrom] at member
      split at member
      · exact ih member
      · split at member
        · exact ih member
        · rename_i found
          split at member
          · exact ih member
          · rename_i apart
            rcases List.mem_cons.1 member with rfl | later
            · refine ⟨(cycleFrom?_eq_some found).1, fun j inCycle before => apart ?_⟩
              exact List.any_eq_true.2 ⟨j, inCycle, List.contains_iff_mem.2 before⟩
            · obtain ⟨circular, disjoint⟩ := ih later
              exact ⟨circular, (List.disjoint_append_right.1 disjoint).1⟩

theorem cyclesFrom_disjoint (reported l : List Nat) :
    (g.cyclesFrom sorted reported l).Pairwise List.Disjoint := by
  induction l generalizing reported with
  | nil => exact List.Pairwise.nil
  | cons i rest ih =>
      rw [cyclesFrom]
      split
      · exact ih reported
      · split
        · exact ih reported
        · split
          · exact ih reported
          · rename_i cycle _ _
            refine List.pairwise_cons.2 ⟨fun later member => ?_, ih _⟩
            have apart := List.disjoint_append_right.1 (mem_cyclesFrom member).2
            exact List.disjoint_symm apart.2

/-- A start whose cycle is known is on a reported cycle or leads to one. -/
theorem cyclesFrom_covers (reported : List Nat) {l cycle : List Nat} {start : Nat}
    (member : start ∈ l) (left : start ∉ sorted)
    (found : g.cycleFrom? sorted start = some cycle) :
    ∃ j ∈ start :: cycle, j ∈ reported ∨ ∃ other ∈ g.cyclesFrom sorted reported l, j ∈ other := by
  induction l generalizing reported with
  | nil => cases member
  | cons i rest ih =>
      rw [cyclesFrom]
      rcases List.mem_cons.1 member with rfl | later
      · by_cases before : start ∈ reported
        · exact ⟨start, List.mem_cons_self, Or.inl before⟩
        · rw [if_neg (by simp [left, before]), found]
          simp only
          split
          · rename_i meets
            obtain ⟨j, inCycle, known⟩ := List.any_eq_true.1 meets
            exact ⟨j, List.mem_cons_of_mem _ inCycle, Or.inl (List.contains_iff_mem.1 known)⟩
          · obtain ⟨j, inCycle⟩ :=
              List.exists_mem_of_ne_nil _ (cycleFrom?_eq_some found).1.nonempty
            exact ⟨j, List.mem_cons_of_mem _ inCycle, Or.inr ⟨cycle, List.mem_cons_self, inCycle⟩⟩
      · split
        · exact ih reported later
        · split
          · exact ih reported later
          · split
            · exact ih reported later
            · rename_i first _ _
              obtain ⟨j, among, known | ⟨other, reportedLater, inOther⟩⟩ :=
                ih (reported ++ first) later
              · rcases List.mem_append.1 known with before | inFirst
                · exact ⟨j, among, Or.inl before⟩
                · exact ⟨j, among, Or.inr ⟨first, List.mem_cons_self, inFirst⟩⟩
              · exact ⟨j, among, Or.inr ⟨other, List.mem_cons_of_mem _ reportedLater, inOther⟩⟩

theorem isCycle_of_mem_cycles {cycle : List Nat} (member : cycle ∈ g.cycles) : g.IsCycle cycle :=
  (mem_cyclesFrom member).1

theorem cycles_disjoint (g : Graph) : g.cycles.Pairwise List.Disjoint := cyclesFrom_disjoint _ _

/-- From a template on a cycle, going back comes to a cycle that is found. -/
theorem exists_cycle_of_transGen (closed : g.Closed) {i : Nat} (back : TransGen g.Waits i i) :
    ∃ j, TransGen g.Waits i j ∧ ∃ cycle ∈ g.cycles, j ∈ cycle := by
  have inside : i < g.size := by
    obtain ⟨k, -, waits⟩ := TransGen.tail'_iff.1 back
    exact closed k i waits
  have left := not_sorted_of_transGen back
  obtain ⟨cycle, found⟩ := Option.isSome_iff_exists.1 (cycleFrom?_isSome closed inside left)
  obtain ⟨j, among, none | known⟩ := cyclesFrom_covers [] (List.mem_range.2 inside) left found
  · cases none
  · refine ⟨j, ?_, known⟩
    rcases List.mem_cons.1 among with rfl | inCycle
    · exact back
    · exact back.trans_left ((cycleFrom?_eq_some found).2 j inCycle)

end Graph

/-! ## Reports -/

/-- Whether one template depends on another, which is the first that produces one of its
dependents. -/
def DependsOn (p : Pipeline) (i j : Nat) : Prop :=
  ∃ t, p.templates[i]? = some t ∧ ∃ name ∈ t.dependents,
    p.templates.findIdx? (·.result == name) = some j

/-- The parameters that a violation tells of as a cycle. -/
def reportedCycle? : Violation → Option (List String)
  | .cycle parameters => some parameters
  | _ => none

/-- The cycles that the check reports. -/
def reportedCycles (p : Pipeline) : List (List String) := (violations p).filterMap reportedCycle?

/-- Parameters that lead back to the first of them: each one is needed to produce the next,
and only the first comes again. -/
structure IsCircular (p : Pipeline) (parameters : List String) : Prop where
  closes : ∃ first rest, parameters = first :: rest ++ [first]
  distinct : parameters.dropLast.Nodup
  flows : parameters.IsChain fun name next =>
    ∃ t, p.producer? next = some t ∧ name ∈ t.dependents

variable {p : Pipeline}

theorem waits_ofTemplates : (Graph.ofTemplates p.templates).Waits = DependsOn p := by
  funext i j
  exact propext mem_waitsFor_ofTemplates

/-- What a template results in, by its index. -/
def resultAt (p : Pipeline) (i : Nat) : String := (p.templates.getD i default).result

/-- A template that another one depends on is the first to produce its result. -/
theorem DependsOn.first {i j : Nat} (depends : DependsOn p i j) :
    p.templates.findIdx? (·.result == resultAt p j) = some j
      ∧ ∃ t, p.templates[i]? = some t ∧ resultAt p j ∈ t.dependents := by
  obtain ⟨t, atI, name, needed, found⟩ := depends
  have same : resultAt p j = name := by
    obtain ⟨inside, result, -⟩ := List.findIdx?_eq_some_iff_getElem.1 found
    simpa [resultAt, List.getD_eq_getElem?_getD, inside] using result
  rw [same]
  exact ⟨found, t, atI, needed⟩

theorem producer?_of_findIdx? {name : String} {j : Nat}
    (found : p.templates.findIdx? (·.result == name) = some j) :
    p.producer? name = p.templates[j]? := by
  obtain ⟨inside, result, earlier⟩ := List.findIdx?_eq_some_iff_getElem.1 found
  rw [List.getElem?_eq_getElem inside]
  exact List.find?_eq_some_iff_getElem.2 ⟨result, j, inside, rfl, by simpa using earlier⟩

/-- What flows along a dependency on a first producer. -/
theorem DependsOn.flow {i j : Nat} (depends : DependsOn p i j)
    (first : p.templates.findIdx? (·.result == resultAt p i) = some i) :
    ∃ t, p.producer? (resultAt p i) = some t ∧ resultAt p j ∈ t.dependents := by
  obtain ⟨t, atI, needed⟩ := depends.first.2
  exact ⟨t, (producer?_of_findIdx? first).trans atI, needed⟩

section

variable {cycle : List Nat} (circular : (Graph.ofTemplates p.templates).IsCycle cycle)

include circular

/-- Each template on a cycle is the first to produce its result. -/
theorem findIdx?_of_isCycle {i : Nat} (member : i ∈ cycle) :
    p.templates.findIdx? (·.result == resultAt p i) = some i := by
  obtain ⟨k, waits⟩ := circular.exists_waits member
  rw [waits_ofTemplates] at waits
  exact waits.first.1

theorem results_of_isCycle :
    cycle.filterMap (fun i => (p.templates[i]?).map (·.result)) = cycle.map (resultAt p) := by
  rw [← List.filterMap_eq_map]
  refine List.filterMap_congr fun i member => ?_
  obtain ⟨inside, -⟩ := List.findIdx?_eq_some_iff_getElem.1 (findIdx?_of_isCycle circular member)
  simp [resultAt, List.getD_eq_getElem?_getD, inside]

theorem nodup_results_of_isCycle : (cycle.map (resultAt p)).Nodup := by
  refine List.Nodup.map_on (fun i atI j atJ same => ?_) circular.nodup
  have first := findIdx?_of_isCycle circular atI
  rw [same, findIdx?_of_isCycle circular atJ] at first
  exact (Option.some.inj first).symm

/-- A cycle of the graph, told along the flow, leads back to its first parameter. -/
theorem isCircular_of_isCycle : IsCircular p (closed (cycle.map (resultAt p))) := by
  have unique := nodup_results_of_isCycle circular
  have first := fun i => findIdx?_of_isCycle circular (i := i)
  obtain ⟨front, last, rfl, around⟩ := circular.around
  have shape : closed ((front ++ [last]).map (resultAt p))
      = resultAt p last :: (front.map (resultAt p)).reverse ++ [resultAt p last] := by
    simp [closed]
  rw [shape]
  refine ⟨⟨_, _, rfl⟩, ?_, ?_⟩
  · rw [List.dropLast_concat]
    simpa using List.nodup_reverse.2 unique
  · have backwards : (resultAt p last :: (front.map (resultAt p)).reverse ++ [resultAt p last])
        = ((last :: (front ++ [last])).map (resultAt p)).reverse := by
      simp
    rw [backwards, List.isChain_reverse, List.isChain_map]
    refine around.imp_of_mem_imp fun i j atI _ waits => ?_
    rw [waits_ofTemplates] at waits
    exact waits.flow (first i (by simpa [or_comm] using atI))

end

theorem mem_closed {results : List String} {name : String} :
    name ∈ closed results ↔ name ∈ results := by
  unfold closed
  rw [List.mem_append, List.mem_reverse, Option.mem_toList]
  exact or_iff_left_of_imp fun first => List.mem_reverse.1 (List.mem_of_head? first)

/-! ## The whole check -/

theorem filterMap_reportedCycle? {l : List Violation}
    (none : ∀ parameters, l.count (.cycle parameters) = 0) : l.filterMap reportedCycle? = [] := by
  rw [List.filterMap_eq_nil_iff]
  intro v member
  cases v with
  | cycle parameters => exact absurd member (List.count_eq_zero.1 (none parameters))
  | _ => rfl

/-- Only the last pass reports cycles, each of those of the graph. -/
theorem reportedCycles_eq (p : Pipeline) :
    reportedCycles p = (Graph.ofTemplates p.templates).cycles.map fun cycle =>
      closed (cycle.map (resultAt p)) := by
  have inHead := filterMap_reportedCycle? (l := head p) fun _ => count_head _
  have inParameters := filterMap_reportedCycle? (l := parameters p) fun _ => count_parameters _
  have inTemplates := filterMap_reportedCycle? (l := templates p) fun _ => count_templates _
  have inProducers := filterMap_reportedCycle? (l := producers p) fun _ => count_producers _
  unfold reportedCycles violations
  rw [List.filterMap_append, List.filterMap_append, List.filterMap_append, List.filterMap_append,
    inHead, inParameters, inTemplates, inProducers, List.nil_append]
  unfold cycles
  rw [List.filterMap_map, ← List.filterMap_eq_map]
  refine List.filterMap_congr fun cycle member => ?_
  rw [Function.comp_apply, results_of_isCycle (Graph.isCycle_of_mem_cycles member)]
  rfl

theorem code_eq_cycle_iff {v : Violation} :
    v.code = "E013" ↔ ∃ parameters, reportedCycle? v = some parameters := by
  cases v <;> simp [Violation.code, reportedCycle?]

theorem exists_code_cycle_iff (p : Pipeline) :
    (∃ v ∈ violations p, v.code = "E013") ↔ ∃ parameters, parameters ∈ reportedCycles p := by
  simp only [code_eq_cycle_iff, reportedCycles, List.mem_filterMap]
  constructor
  · rintro ⟨v, member, parameters, told⟩
    exact ⟨parameters, v, member, told⟩
  · rintro ⟨parameters, v, member, told⟩
    exact ⟨v, member, parameters, told⟩

/-- From a template on a cycle, its dependencies lead to one whose result is reported. -/
theorem exists_reported_of_transGen {i : Nat} (back : TransGen (DependsOn p) i i) :
    ∃ j, TransGen (DependsOn p) i j ∧ ∃ parameters ∈ reportedCycles p, ∃ name ∈ parameters,
      p.templates.findIdx? (·.result == name) = some j := by
  rw [← waits_ofTemplates] at back ⊢
  obtain ⟨j, reached, cycle, member, inCycle⟩ :=
    Graph.exists_cycle_of_transGen (closed_ofTemplates p.templates) back
  have first := findIdx?_of_isCycle (Graph.isCycle_of_mem_cycles member) inCycle
  refine ⟨j, reached, closed (cycle.map (resultAt p)), ?_, resultAt p j, ?_, first⟩
  · rw [reportedCycles_eq]
    exact List.mem_map_of_mem member
  · exact mem_closed.2 (List.mem_map_of_mem inCycle)

/-- **The reports of cycles are exact**: each is a cycle along the flow, no two name one
parameter, every template on a cycle leads to one of them, and there is one exactly if some
template depends on itself. -/
theorem reportedCycles_exact (p : Pipeline) :
    (∀ parameters ∈ reportedCycles p, IsCircular p parameters)
      ∧ (reportedCycles p).Pairwise List.Disjoint
      ∧ (∀ i, TransGen (DependsOn p) i i →
          ∃ j, TransGen (DependsOn p) i j ∧ ∃ parameters ∈ reportedCycles p, ∃ name ∈ parameters,
            p.templates.findIdx? (·.result == name) = some j)
      ∧ ((∃ v ∈ violations p, v.code = "E013") ↔ ∃ i, TransGen (DependsOn p) i i) := by
  refine ⟨?_, ?_, fun i => exists_reported_of_transGen, ?_⟩
  · intro parameters member
    rw [reportedCycles_eq] at member
    obtain ⟨cycle, found, rfl⟩ := List.mem_map.1 member
    exact isCircular_of_isCycle (Graph.isCycle_of_mem_cycles found)
  · rw [reportedCycles_eq, List.pairwise_map]
    refine (Graph.cycles_disjoint _).imp_of_mem fun atA atB apart name inA inB => ?_
    obtain ⟨i, atI, rfl⟩ := List.mem_map.1 (mem_closed.1 inA)
    obtain ⟨j, atJ, same⟩ := List.mem_map.1 (mem_closed.1 inB)
    have first := findIdx?_of_isCycle (Graph.isCycle_of_mem_cycles atA) atI
    rw [← same, findIdx?_of_isCycle (Graph.isCycle_of_mem_cycles atB) atJ] at first
    exact apart atI (Option.some.inj first ▸ atJ)
  · rw [exists_code_cycle_iff]
    constructor
    · rintro ⟨parameters, member⟩
      rw [reportedCycles_eq] at member
      obtain ⟨cycle, found, -⟩ := List.mem_map.1 member
      have circular := Graph.isCycle_of_mem_cycles found
      obtain ⟨i, inCycle⟩ := List.exists_mem_of_ne_nil cycle circular.nonempty
      exact ⟨i, waits_ofTemplates ▸ circular.comes_back inCycle⟩
    · rintro ⟨i, back⟩
      obtain ⟨-, -, parameters, member, -⟩ := exists_reported_of_transGen back
      exact ⟨parameters, member⟩

/-- Of two templates that wait for each other, and one behind them, the two are reported. -/
example :
    let template (result : String) (dependents : List String) : Template :=
      { Template.new result "x" result with dependents := .ofList dependents }
    reportedCycles { Pipeline.new "" with
      templates := [template "c" ["a"], template "a" ["b"], template "b" ["a", "b"]] }
      = [["b", "a", "b"]] := by
  decide +kernel

end PromptPipeline.Validation
