/-
# Proofs.Validation.Termination -- the search for cycles ends

The sorting and the walk back are run for as many steps as there are templates.  Here both
are loops without a bound, one step at a time: `Sorting` holds of the states that the
sorting comes to, and `GoesBack` of the paths that the walk makes from a template that is
left.  `cycleSearch_ends` says for any pipeline what keeps the two loops safe:

* a dependency that is closed is open, so no degree falls below zero, and a template that
  is queued was not queued before (`Sorting.positive`, `Sorting.sound`);
* the sorting ends with the templates from which no cycle is reached (`mem_sorted_iff`);
* a template that is left waits for one that is left, so the walk goes on until a template
  comes again, and no path is longer than there are templates (`GoesBack.length_le`,
  `GoesBack.closes`).

What is queued leaves the queue only to be sorted, so `done ++ queue` is all that has been
queued so far.
-/
import PromptPipeline.Proofs.Validation.Cycles

namespace PromptPipeline.Validation

set_option autoImplicit false

open Relation (TransGen ReflTransGen)

namespace Graph

/-! ## The sorting, one dependency at a time -/

/-- The states that the sorting comes to, with the templates of which a dependency is still
to be closed before the next template is sorted. -/
inductive Sorting (g : Graph) : List Nat → Progress → Prop
  | start : Sorting g [] g.start
  | next {p : Progress} {i : Nat} {rest : List Nat} (before : Sorting g [] p)
      (queue : p.queue = i :: rest) :
      Sorting g (g.successors i) { p with queue := rest, done := p.done ++ [i] }
  | close {p : Progress} {i : Nat} {closing : List Nat} (before : Sorting g (i :: closing) p) :
      Sorting g closing (p.close i)

variable {g : Graph} {p : Progress} {i : Nat} {closing : List Nat}

theorem Sorting.lt_size (reached : g.Sorting closing p) : ∀ i ∈ closing, i < g.size := by
  induction reached with
  | start => exact fun _ none => nomatch none
  | next => exact fun _ member => mem_successors_lt member
  | close _ ih => exact fun k member => ih k (List.mem_cons_of_mem _ member)

/-- **Every state of the sorting is sound.** -/
theorem Sorting.sound (reached : g.Sorting closing p) : p.Sound g closing := by
  induction reached with
  | start => exact start_sound g
  | next _ queue ih => exact Progress.next_sound ih queue
  | close before ih => exact Progress.close_sound (before.lt_size _ List.mem_cons_self) ih

/-- **A dependency that is closed is open.** -/
theorem Sorting.positive (reached : g.Sorting (i :: closing) p) : 0 < p.degrees.getD i 0 := by
  have degree := reached.sound.degree i (reached.lt_size i List.mem_cons_self)
  rw [List.count_cons_self] at degree
  omega

/-- What is still to be closed leads to a state of the bounded run. -/
theorem Sorting.exists_run (reached : g.Sorting closing p) :
    ∃ n, closing.foldl Progress.close p = g.start.run g n := by
  induction reached with
  | start => exact ⟨0, rfl⟩
  | @next p i rest _ queue ih =>
      obtain ⟨n, is⟩ := ih
      have same : p = g.start.run g n := is
      refine ⟨n + 1, ?_⟩
      rw [Progress.run_add, ← same, Progress.run, Progress.run, Progress.step, queue]
  | close _ ih => exact ih

theorem Sorting.closeAll (reached : g.Sorting closing p) :
    g.Sorting [] (closing.foldl Progress.close p) := by
  induction closing generalizing p with
  | nil => exact reached
  | cons i closing ih => exact ih reached.close

/-- The bounded run comes to states of the sorting only. -/
theorem sorting_run (g : Graph) (n : Nat) : g.Sorting [] (g.start.run g n) := by
  induction n with
  | zero => exact .start
  | succ n ih =>
      rw [Progress.run_add, Progress.run, Progress.run, Progress.step]
      split
      · exact ih
      · rename_i queue
        exact (ih.next queue).closeAll

/-- **Where the queue is empty, the sorting has come to its result.** -/
theorem Sorting.done_eq_sorted (reached : g.Sorting [] p) (ended : p.queue = []) :
    p.done = g.sorted := by
  obtain ⟨n, same⟩ := reached.exists_run
  obtain rfl : p = g.start.run g n := same
  have all := Progress.run_add n g.size g.start (g := g)
  have more := Progress.run_add g.size n g.start (g := g)
  rw [Progress.run_of_queue_nil ended] at all
  rw [Progress.run_of_queue_nil (run_size_queue g), Nat.add_comm, all] at more
  exact congrArg Progress.done more

/-! ## What is sorted -/

/-- **The templates that are sorted are those from which no cycle is reached.** -/
theorem mem_sorted_iff (closed : g.Closed) (inside : i < g.size) :
    i ∈ g.sorted ↔ ¬∃ j, ReflTransGen g.Waits i j ∧ TransGen g.Waits j j := by
  constructor
  · rintro isSorted ⟨j, reached, back⟩
    have alsoSorted : j ∈ g.sorted := by
      rcases Relation.reflTransGen_iff_eq_or_transGen.1 reached with rfl | depends
      · exact isSorted
      · exact (idxOf_lt_of_transGen depends isSorted).1
    exact not_sorted_of_transGen back alsoSorted
  · intro noCycle
    by_contra left
    obtain ⟨cycle, found⟩ := Option.isSome_iff_exists.1 (cycleFrom?_isSome closed inside left)
    obtain ⟨circular, reached⟩ := cycleFrom?_eq_some found
    obtain ⟨j, member⟩ := List.exists_mem_of_ne_nil cycle circular.nonempty
    exact noCycle ⟨j, reached j member, circular.comes_back member⟩

/-! ## The walk, one template at a time -/

/-- The paths that going back from a template makes while no template comes again, each with
its last template first. -/
inductive GoesBack (g : Graph) (sorted : List Nat) (start : Nat) : List Nat → Prop
  | start : GoesBack g sorted start [start]
  | next {current next : Nat} {before : List Nat}
      (path : GoesBack g sorted start (current :: before))
      (opened : g.openPredecessor? sorted current = some next) (fresh : next ∉ current :: before) :
      GoesBack g sorted start (next :: current :: before)

variable {start : Nat} {path : List Nat}

theorem GoesBack.nodup {sorted : List Nat} (walked : g.GoesBack sorted start path) :
    path.Nodup := by
  induction walked with
  | start => exact List.nodup_singleton start
  | next _ _ fresh ih => exact List.nodup_cons.2 ⟨fresh, ih⟩

section

variable (closed : g.Closed) (inside : start < g.size) (left : start ∉ g.sorted)

include closed inside left

theorem GoesBack.unsorted (walked : g.GoesBack g.sorted start path) :
    ∀ i ∈ path, i < g.size ∧ i ∉ g.sorted := by
  induction walked with
  | start => exact List.forall_mem_singleton.2 ⟨inside, left⟩
  | next _ opened _ ih =>
      obtain ⟨waits, nextLeft⟩ := mem_of_openPredecessor? opened
      exact List.forall_mem_cons.2 ⟨⟨closed _ _ waits, nextLeft⟩, ih⟩

/-- **No path is longer than there are templates.** -/
theorem GoesBack.length_le (walked : g.GoesBack g.sorted start path) : path.length ≤ g.size := by
  have within : path ⊆ List.range g.size := fun i member =>
    List.mem_range.2 (walked.unsorted closed inside left i member).1
  simpa using (List.subperm_of_subset walked.nodup within).length_le

/-- **The walk never ends for want of a template to go back to.** -/
theorem GoesBack.goesOn {current : Nat} {before : List Nat}
    (walked : g.GoesBack g.sorted start (current :: before)) :
    ∃ next, g.openPredecessor? g.sorted current = some next :=
  let ⟨within, stays⟩ := walked.unsorted closed inside left current List.mem_cons_self
  openPredecessor?_isSome within stays

end

/-- Where the bounded walk comes to a cycle, a template has come again on its path. -/
theorem GoesBack.closes {sorted cycle : List Nat} :
    ∀ (fuel : Nat) (path : List Nat), g.GoesBack sorted start path →
      g.walk sorted fuel path = some cycle →
      ∃ current before next, g.GoesBack sorted start (current :: before)
        ∧ g.openPredecessor? sorted current = some next ∧ next ∈ current :: before
        ∧ cycle = (current :: before).reverse.dropWhile (· != next)
  | 0, _, _, found => by rw [walk] at found; cases found
  | _ + 1, [], walked, _ => nomatch walked
  | fuel + 1, current :: before, walked, found => by
      rw [walk] at found
      split at found
      · cases found
      · rename_i next opened
        split at found
        · rename_i again
          cases found
          exact ⟨current, before, next, walked, opened, List.contains_iff_mem.1 again, rfl⟩
        · rename_i fresh
          exact closes fuel _ (walked.next opened (by simpa using fresh)) found

end Graph

/-- **The search for cycles is safe and ends.** -/
theorem cycleSearch_ends (p : Pipeline) :
    let g := Graph.ofTemplates p.templates
    let n := p.templates.length
    (∀ i closing state, g.Sorting (i :: closing) state → 0 < state.degrees.getD i 0)
      ∧ (∀ closing state, g.Sorting closing state →
          (state.done ++ state.queue).Nodup ∧ (state.done ++ state.queue).length ≤ n)
      ∧ (∃ state, g.Sorting [] state ∧ state.queue = [])
      ∧ (∀ state, g.Sorting [] state → state.queue = [] → state.done = g.sorted)
      ∧ (∀ i < n, i ∈ g.sorted
          ↔ ¬∃ j, ReflTransGen (DependsOn p) i j ∧ TransGen (DependsOn p) j j)
      ∧ (∀ i < n, i ∉ g.sorted →
          (∃ j, DependsOn p i j ∧ j ∉ g.sorted)
          ∧ (∀ current before, g.GoesBack g.sorted i (current :: before) →
              (current :: before).length ≤ n
                ∧ ∃ next, g.openPredecessor? g.sorted current = some next)
          ∧ ∃ current before next, g.GoesBack g.sorted i (current :: before)
              ∧ g.openPredecessor? g.sorted current = some next ∧ next ∈ current :: before
              ∧ g.cycleFrom? g.sorted i
                = some ((current :: before).reverse.dropWhile (· != next)))
      ∧ ∀ parameters ∈ reportedCycles p, ∃ first rest, parameters = first :: rest ++ [first] := by
  intro g n
  have size : g.size = n := by simp [g, n, Graph.size, Graph.ofTemplates]
  have closed : g.Closed := closed_ofTemplates p.templates
  rw [← waits_ofTemplates, ← size]
  refine ⟨fun i closing state reached => reached.positive, ?_, ?_,
    fun state reached ended => reached.done_eq_sorted ended,
    fun i inside => Graph.mem_sorted_iff closed inside, ?_, ?_⟩
  · intro closing state reached
    rw [List.length_append]
    exact ⟨reached.sound.nodup, reached.sound.length_le⟩
  · exact ⟨_, Graph.sorting_run g g.size, Graph.run_size_queue g⟩
  · intro i inside left
    obtain ⟨cycle, found⟩ :=
      Option.isSome_iff_exists.1 (Graph.cycleFrom?_isSome closed inside left)
    obtain ⟨current, before, next, walked, opened, again, rfl⟩ :=
      Graph.GoesBack.closes _ _ .start found
    refine ⟨Graph.exists_open_of_not_sorted inside left, fun current before walked => ?_,
      current, before, next, walked, opened, again, found⟩
    exact ⟨walked.length_le closed inside left, walked.goesOn closed inside left⟩
  · intro parameters member
    rw [reportedCycles_eq] at member
    obtain ⟨cycle, found, rfl⟩ := List.mem_map.1 member
    exact (isCircular_of_isCycle (Graph.isCycle_of_mem_cycles found)).closes

end PromptPipeline.Validation
