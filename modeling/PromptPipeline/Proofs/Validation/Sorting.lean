/-
# Proofs.Validation.Sorting -- the sorting finds an order or leaves a cycle

Templates are sorted by closing dependencies one at a time.  `Progress.Sound` says
what every state of the sorting keeps: the degree of a template is the number of
its dependencies that are open, the templates of degree zero are exactly those
sorted or queued, and each one sorted comes behind all that it waits for.

* `sorted_isOrder`: the sorted templates are in an order of execution;
* `exists_open_of_not_sorted`: a template that is left waits for one that is left,
  so going back from it never ends but in a cycle (`cycleFrom?_isSome`);
* `cycles_eq_nil_iff`: no cycle is reported exactly when all templates have an
  order of execution.
-/
import PromptPipeline.Validation.Dependency
import Mathlib.Data.List.Nodup
import Mathlib.Data.List.Perm.Subperm
import Mathlib.Tactic.Cases

namespace PromptPipeline.Validation.Graph

set_option autoImplicit false

/-! ## Orders of execution -/

/-- Every template in the list comes behind all that it waits for. -/
def IsOrder (g : Graph) (order : List Nat) : Prop :=
  ∀ before i after, order = before ++ i :: after → ∀ j ∈ g.waitsFor i, j ∈ before

/-- Templates wait only for templates of the graph. -/
def Closed (g : Graph) : Prop := ∀ i, ∀ j ∈ g.waitsFor i, j < g.size

theorem isOrder_nil (g : Graph) : g.IsOrder [] := by
  intro before i after h
  simp at h

theorem isOrder_concat {g : Graph} {order : List Nat} {i : Nat} (ordered : g.IsOrder order)
    (behind : ∀ j ∈ g.waitsFor i, j ∈ order) : g.IsOrder (order ++ [i]) := by
  intro before k after split j hj
  rcases List.eq_nil_or_concat after with rfl | ⟨front, last, rfl⟩
  · obtain ⟨rfl, same⟩ := List.append_inj' split rfl
    obtain rfl : i = k := by simpa using same
    exact behind j hj
  · have split' : order ++ [i] = (before ++ k :: front) ++ [last] := by simpa using split
    obtain ⟨rfl, -⟩ := List.append_inj' split' rfl
    exact ordered before k front rfl j hj

theorem waitsFor_eq_nil {g : Graph} {i : Nat} (outside : g.size ≤ i) : g.waitsFor i = [] := by
  unfold waitsFor
  rw [List.getD_eq_getElem?_getD, List.getElem?_eq_none outside]
  rfl

/-! ## What the sorting keeps -/

/-- How many dependencies of a template are open. -/
def openCount (g : Graph) (done : List Nat) (i : Nat) : Nat :=
  (g.waitsFor i).countP fun j => !done.contains j

/-- What every state of the sorting keeps, while the dependencies in `closing` are
still to be closed. -/
structure Progress.Sound (g : Graph) (closing : List Nat) (p : Progress) : Prop where
  length : p.degrees.length = g.size
  degree : ∀ i < g.size, p.degrees.getD i 0 = g.openCount p.done i + closing.count i
  free : ∀ i < g.size, p.degrees.getD i 0 = 0 ↔ i ∈ p.done ++ p.queue
  nodup : (p.done ++ p.queue).Nodup
  inside : ∀ i ∈ p.done ++ p.queue, i < g.size
  ordered : g.IsOrder p.done

theorem count_successors {g : Graph} {i : Nat} (inside : i < g.size) (j : Nat) :
    (g.successors j).count i = (g.waitsFor i).count j := by
  have constant : ∀ k, (((g.waitsFor k).filter (· == j)).map fun _ => k)
      = List.replicate ((g.waitsFor k).count j) k := by
    intro k
    rw [List.map_const', ← List.countP_eq_length_filter]
    rfl
  have along : ∀ l : List Nat, l.Nodup →
      (l.flatMap fun k => List.replicate ((g.waitsFor k).count j) k).count i
        = if i ∈ l then (g.waitsFor i).count j else 0 := by
    intro l
    induction l with
    | nil => simp
    | cons k rest ih =>
        intro unique
        obtain ⟨fresh, restUnique⟩ := List.nodup_cons.1 unique
        rw [List.flatMap_cons, List.count_append, List.count_replicate, ih restUnique]
        by_cases same : k = i
        · subst same
          simp [fresh]
        · have : ¬ i = k := fun h => same h.symm
          simp [same, this]
  unfold successors
  simp only [constant]
  rw [along _ List.nodup_range, if_pos (List.mem_range.2 inside)]

theorem mem_successors_lt {g : Graph} {i j : Nat} (h : i ∈ g.successors j) : i < g.size := by
  unfold successors at h
  obtain ⟨k, hk, hi⟩ := List.mem_flatMap.1 h
  obtain ⟨_, _, rfl⟩ := List.mem_map.1 hi
  exact List.mem_range.1 hk

theorem Progress.getD_close_self {p : Progress} {i : Nat} (inside : i < p.degrees.length) :
    (p.close i).degrees.getD i 0 = p.degrees.getD i 0 - 1 := by
  simp [close, List.getD_eq_getElem?_getD, inside]

theorem Progress.getD_close_of_ne {p : Progress} {i k : Nat} (differs : i ≠ k) :
    (p.close i).degrees.getD k 0 = p.degrees.getD k 0 := by
  simp [close, List.getD_eq_getElem?_getD, differs]

/-- Closing the last dependency of a template queues it. -/
theorem Progress.close_queue_of_last {p : Progress} {i : Nat}
    (last : p.degrees.getD i 0 - 1 = 0) : (p.close i).queue = p.queue ++ [i] :=
  if_pos last

theorem Progress.close_queue_of_more {p : Progress} {i : Nat}
    (more : p.degrees.getD i 0 - 1 ≠ 0) : (p.close i).queue = p.queue :=
  if_neg more

/-- A template with a dependency that is still to be closed is neither sorted nor queued. -/
theorem Progress.Sound.waiting {g : Graph} {closing : List Nat} {p : Progress} {i : Nat}
    (sound : p.Sound g (i :: closing)) (inside : i < g.size) : i ∉ p.done ++ p.queue := by
  intro ready
  have none := (sound.free i inside).2 ready
  rw [sound.degree i inside, List.count_cons_self] at none
  omega

theorem Progress.Sound.degree_close {g : Graph} {closing : List Nat} {p : Progress} {i k : Nat}
    (sound : p.Sound g (i :: closing)) (inside : k < g.size) :
    (p.close i).degrees.getD k 0 = g.openCount p.done k + closing.count k := by
  have degree := sound.degree k inside
  by_cases same : i = k
  · subst same
    rw [getD_close_self (sound.length ▸ inside), degree, List.count_cons_self]
    omega
  · rw [getD_close_of_ne same, degree, List.count_cons_of_ne same]

/-- Closing one dependency keeps the state sound. -/
theorem Progress.close_sound {g : Graph} {closing : List Nat} {p : Progress} {i : Nat}
    (inside : i < g.size) (sound : p.Sound g (i :: closing)) : (p.close i).Sound g closing := by
  have waiting := sound.waiting inside
  have length : (p.close i).degrees.length = g.size := by simp [close, sound.length]
  have sameDegree : ∀ k, i ≠ k → (p.close i).degrees.getD k 0 = p.degrees.getD k 0 :=
    fun k differs => getD_close_of_ne differs
  have selfDegree : (p.close i).degrees.getD i 0 = p.degrees.getD i 0 - 1 :=
    getD_close_self (sound.length ▸ inside)
  by_cases last : p.degrees.getD i 0 - 1 = 0
  · have queued : (p.close i).done ++ (p.close i).queue = (p.done ++ p.queue) ++ [i] := by
      rw [close_queue_of_last last, List.append_assoc]
      rfl
    refine ⟨length, fun k => sound.degree_close, ?_, ?_, ?_, sound.ordered⟩
    · intro k hk
      rw [queued, List.mem_append, List.mem_singleton]
      by_cases same : i = k
      · subst same
        rw [selfDegree, last]
        simp
      · rw [sameDegree k same, sound.free k hk]
        simp [Ne.symm same]
    · rw [queued, ← List.concat_eq_append, List.nodup_concat]
      exact ⟨waiting, sound.nodup⟩
    · intro k hk
      rw [queued, List.mem_append, List.mem_singleton] at hk
      rcases hk with before | rfl
      · exact sound.inside k before
      · exact inside
  · have queued : (p.close i).done ++ (p.close i).queue = p.done ++ p.queue := by
      rw [close_queue_of_more last]
      rfl
    refine ⟨length, fun k => sound.degree_close, ?_, ?_, ?_, sound.ordered⟩
    · intro k hk
      rw [queued]
      by_cases same : i = k
      · subst same
        rw [selfDegree]
        exact iff_of_false last waiting
      · rw [sameDegree k same, sound.free k hk]
    · rw [queued]
      exact sound.nodup
    · rw [queued]
      exact sound.inside

theorem Progress.foldl_close_sound {g : Graph} {closing : List Nat} {p : Progress}
    (inside : ∀ i ∈ closing, i < g.size) (sound : p.Sound g closing) :
    (closing.foldl close p).Sound g [] := by
  induction closing generalizing p with
  | nil => exact sound
  | cons i rest ih =>
      have next := close_sound (inside i List.mem_cons_self) sound
      exact ih (fun k hk => inside k (List.mem_cons_of_mem i hk)) next

theorem openCount_concat {g : Graph} {done : List Nat} {i : Nat} (fresh : i ∉ done) (k : Nat) :
    g.openCount done k = g.openCount (done ++ [i]) k + (g.waitsFor k).count i := by
  unfold openCount
  induction g.waitsFor k with
  | nil => rfl
  | cons j rest ih =>
      rw [List.countP_cons, List.countP_cons, List.count_cons, ih]
      by_cases same : j = i
      · subst same
        simp [fresh]
        omega
      · have kept : (done ++ [i]).contains j = done.contains j := by simp [same]
        simp only [kept, beq_iff_eq, same, if_false]
        omega

/-- The next template is sorted soundly, while its successors are still to be closed. -/
theorem Progress.next_sound {g : Graph} {p : Progress} {i : Nat} {rest : List Nat}
    (sound : p.Sound g []) (queue : p.queue = i :: rest) :
    Sound g (g.successors i) { p with queue := rest, done := p.done ++ [i] } := by
  have queued : i ∈ p.done ++ p.queue := by simp [queue]
  have inside : i < g.size := sound.inside i queued
  have nodup : (p.done ++ i :: rest).Nodup := queue ▸ sound.nodup
  have fresh : i ∉ p.done := fun h => (List.disjoint_of_nodup_append nodup) h List.mem_cons_self
  have ready : ∀ j ∈ g.waitsFor i, j ∈ p.done := by
    have zero := (sound.free i inside).2 queued
    rw [sound.degree i inside, List.count_nil, Nat.add_zero] at zero
    intro j hj
    simpa using List.countP_eq_zero.1 zero j hj
  refine ⟨sound.length, ?_, ?_, ?_, ?_, ?_⟩
  · intro k hk
    rw [sound.degree k hk, count_successors hk, openCount_concat fresh]
    simp
  · intro k hk
    rw [sound.free k hk, queue]
    simp
  · simpa using nodup
  · intro k hk
    exact sound.inside k (by simpa [queue] using hk)
  · exact isOrder_concat sound.ordered ready

/-- Sorting the next template keeps the state sound. -/
theorem Progress.step_sound {g : Graph} {p : Progress} (sound : p.Sound g []) :
    (p.step g).Sound g [] := by
  unfold step
  split
  · exact sound
  · rename_i i rest queue
    exact foldl_close_sound (fun k hk => mem_successors_lt hk) (next_sound sound queue)

theorem start_sound (g : Graph) : g.start.Sound g [] := by
  have degree : ∀ i < g.size, g.start.degrees.getD i 0 = (g.waitsFor i).length := by
    intro i hi
    unfold start waitsFor
    have hi' : i < g.predecessors.length := hi
    simp [List.getD_eq_getElem?_getD, hi']
  refine ⟨?_, ?_, ?_, ?_, ?_, isOrder_nil g⟩
  · simp [start, size]
  · intro i hi
    rw [degree i hi]
    simp [start, openCount]
  · intro i hi
    rw [degree i hi]
    simp [start, hi]
  · simpa [start] using List.nodup_range.filter _
  · intro i hi
    have hi' : i < g.size ∧ g.waitsFor i = [] := by simpa [start] using hi
    exact hi'.1

theorem Progress.run_sound {g : Graph} :
    ∀ (n : Nat) {p : Progress}, p.Sound g [] → (p.run g n).Sound g []
  | 0, _, sound => sound
  | n + 1, _, sound => run_sound n (step_sound sound)

/-! ## As many steps as there are templates are enough -/

theorem Progress.foldl_close_done (closing : List Nat) (p : Progress) :
    (closing.foldl close p).done = p.done := by
  induction closing generalizing p with
  | nil => rfl
  | cons i rest ih => exact ih (p.close i)

theorem Progress.step_done {g : Graph} {p : Progress} (waiting : p.queue ≠ []) :
    (p.step g).done.length = p.done.length + 1 := by
  unfold step
  split
  · contradiction
  · rw [foldl_close_done, List.length_append]
    rfl

theorem Progress.step_of_queue_nil {g : Graph} {p : Progress} (empty : p.queue = []) :
    p.step g = p := by
  unfold step
  rw [empty]

theorem Progress.run_of_queue_nil {g : Graph} {p : Progress} (empty : p.queue = []) (n : Nat) :
    p.run g n = p := by
  induction n with
  | zero => rfl
  | succ n ih => rw [run, step_of_queue_nil empty, ih]

/-- A run goes on where a shorter one ended. -/
theorem Progress.run_add {g : Graph} (n m : Nat) (p : Progress) :
    p.run g (n + m) = (p.run g n).run g m := by
  induction n generalizing p with
  | zero => rw [Nat.zero_add, run]
  | succ n ih => rw [Nat.add_right_comm, run, run, ih]

/-- A run of `n` steps empties the queue or sorts `n` templates. -/
theorem Progress.run_done {g : Graph} (n : Nat) (p : Progress) :
    (p.run g n).queue = [] ∨ (p.run g n).done.length = p.done.length + n := by
  induction n generalizing p with
  | zero => exact Or.inr rfl
  | succ n ih =>
      by_cases empty : p.queue = []
      · rw [run_of_queue_nil empty]
        exact Or.inl empty
      · rw [run]
        rcases ih (p.step g) with done | count
        · exact Or.inl done
        · rw [step_done empty] at count
          exact Or.inr (by omega)

theorem Progress.Sound.length_le {g : Graph} {closing : List Nat} {p : Progress}
    (sound : p.Sound g closing) : p.done.length + p.queue.length ≤ g.size := by
  have within : p.done ++ p.queue ⊆ List.range g.size :=
    fun i hi => List.mem_range.2 (sound.inside i hi)
  simpa using (List.subperm_of_subset sound.nodup within).length_le

theorem run_size_sound (g : Graph) : (g.start.run g g.size).Sound g [] :=
  Progress.run_sound g.size (start_sound g)

theorem run_size_queue (g : Graph) : (g.start.run g g.size).queue = [] := by
  rcases Progress.run_done (g := g) g.size g.start with empty | count
  · exact empty
  · have bound := (run_size_sound g).length_le
    exact List.length_eq_zero_iff.1 (by omega)

/-! ## The sorted templates -/

theorem sorted_isOrder (g : Graph) : g.IsOrder g.sorted := (run_size_sound g).ordered

theorem sorted_nodup (g : Graph) : g.sorted.Nodup :=
  (List.nodup_append.1 (run_size_sound g).nodup).1

theorem sorted_lt {g : Graph} {i : Nat} (h : i ∈ g.sorted) : i < g.size :=
  (run_size_sound g).inside i (List.mem_append_left _ h)

/-- A template that is left waits for one that is left. -/
theorem exists_open_of_not_sorted {g : Graph} {i : Nat} (inside : i < g.size)
    (left : i ∉ g.sorted) : ∃ j ∈ g.waitsFor i, j ∉ g.sorted := by
  have sound := run_size_sound g
  have degree := sound.degree i inside
  have free := sound.free i inside
  rw [run_size_queue, List.append_nil, degree, List.count_nil, Nat.add_zero] at free
  have positive : 0 < g.openCount g.sorted i := Nat.pos_of_ne_zero fun zero => left (free.1 zero)
  obtain ⟨j, hj, isOpen⟩ := List.countP_pos_iff.1 positive
  exact ⟨j, hj, by simpa using isOpen⟩

/-! ## Going back -/

theorem openPredecessor?_isSome {g : Graph} {i : Nat} (inside : i < g.size)
    (left : i ∉ g.sorted) : ∃ j, g.openPredecessor? g.sorted i = some j := by
  obtain ⟨j, hj, isOpen⟩ := exists_open_of_not_sorted inside left
  refine Option.isSome_iff_exists.1 (List.find?_isSome.2 ⟨j, hj, ?_⟩)
  simpa using isOpen

theorem mem_of_openPredecessor? {g : Graph} {sorted : List Nat} {i j : Nat}
    (found : g.openPredecessor? sorted i = some j) : j ∈ g.waitsFor i ∧ j ∉ sorted :=
  ⟨List.mem_of_find?_eq_some found, by simpa using List.find?_some found⟩

/-- A walk over templates that are left comes to a cycle while there is fuel for the
templates that it has not met. -/
theorem walk_isSome {g : Graph} (closed : g.Closed) :
    ∀ (fuel : Nat) (path : List Nat), path ≠ [] → path.Nodup →
      (∀ i ∈ path, i < g.size ∧ i ∉ g.sorted) → g.size < fuel + path.length →
      (g.walk g.sorted fuel path).isSome
  | 0, path, _, unique, left, enough => by
      have within : path ⊆ List.range g.size := fun i hi => List.mem_range.2 (left i hi).1
      have bound := (List.subperm_of_subset unique within).length_le
      rw [List.length_range] at bound
      omega
  | fuel + 1, [], nonempty, _, _, _ => absurd rfl nonempty
  | fuel + 1, current :: before, _, unique, left, enough => by
      obtain ⟨inside, isOpen⟩ := left current List.mem_cons_self
      obtain ⟨next, found⟩ := openPredecessor?_isSome inside isOpen
      obtain ⟨waits, nextOpen⟩ := mem_of_openPredecessor? found
      rw [walk, found]
      simp only
      split
      · rfl
      · rename_i fresh
        have fresh' : next ∉ current :: before := by simpa using fresh
        refine walk_isSome closed fuel _ (by simp) (List.nodup_cons.2 ⟨fresh', unique⟩) ?_ ?_
        · intro i hi
          rcases List.mem_cons.1 hi with rfl | hi
          · exact ⟨closed current _ waits, nextOpen⟩
          · exact left i hi
        · simp only [List.length_cons] at enough ⊢
          omega

theorem cycleFrom?_isSome {g : Graph} (closed : g.Closed) {i : Nat} (inside : i < g.size)
    (left : i ∉ g.sorted) : (g.cycleFrom? g.sorted i).isSome := by
  refine walk_isSome closed (g.size + 1) [i] (by simp) (List.nodup_singleton i) ?_ ?_
  · intro k hk
    rw [List.mem_singleton.1 hk]
    exact ⟨inside, left⟩
  · rw [List.length_singleton]
    omega

/-- Where waiting lowers a rank, a walk never comes back to its path. -/
theorem walk_eq_none {g : Graph} {rank : Nat → Nat}
    (lower : ∀ i, ∀ j ∈ g.waitsFor i, rank j < rank i) (sorted : List Nat) :
    ∀ (fuel : Nat) (path : List Nat), path.Pairwise (fun i j => rank i < rank j) →
      g.walk sorted fuel path = none
  | 0, _, _ => by rw [walk]
  | _ + 1, [], _ => by rw [walk]; simp
  | fuel + 1, current :: before, falls => by
      rw [walk]
      split
      · rfl
      · rename_i next found
        have step := lower current next (mem_of_openPredecessor? found).1
        have below : ∀ i ∈ current :: before, rank next < rank i := by
          intro i hi
          rcases List.mem_cons.1 hi with rfl | hi
          · exact step
          · exact Nat.lt_trans step ((List.pairwise_cons.1 falls).1 i hi)
        have fresh : next ∉ current :: before := fun h => Nat.lt_irrefl _ (below next h)
        rw [if_neg (by simpa using fresh)]
        exact walk_eq_none lower sorted fuel _ (List.pairwise_cons.2 ⟨below, falls⟩)

/-! ## Reports -/

theorem cyclesFrom_eq_nil_iff {g : Graph} {sorted : List Nat} (l : List Nat) :
    g.cyclesFrom sorted [] l = [] ↔ ∀ i ∈ l, i ∈ sorted ∨ g.cycleFrom? sorted i = none := by
  induction l with
  | nil => simp [cyclesFrom]
  | cons i rest ih =>
      rw [cyclesFrom, List.forall_mem_cons, ← ih]
      by_cases member : i ∈ sorted
      · simp [member]
      · cases found : g.cycleFrom? sorted i with
        | none => simp [member]
        | some cycle => simp [member]

/-- **No cycle is reported exactly when all templates are sorted.** -/
theorem cycles_eq_nil_iff_sorted {g : Graph} (closed : g.Closed) :
    g.cycles = [] ↔ ∀ i < g.size, i ∈ g.sorted := by
  unfold cycles
  rw [cyclesFrom_eq_nil_iff]
  constructor
  · intro none i hi
    by_contra left
    have found := cycleFrom?_isSome closed hi left
    rcases none i (List.mem_range.2 hi) with member | missing
    · exact left member
    · simp [missing] at found
  · intro all i hi
    exact Or.inl (all i (List.mem_range.1 hi))

theorem idxOf_lt_of_isOrder {g : Graph} {order : List Nat} (ordered : g.IsOrder order)
    {i j : Nat} (member : i ∈ order) (waits : j ∈ g.waitsFor i) :
    order.idxOf j < order.idxOf i := by
  obtain ⟨before, after, rfl, fresh⟩ := List.eq_append_cons_of_mem member
  have earlier := ordered before i after rfl j waits
  have atJ : (before ++ i :: after).idxOf j < before.length := by
    rw [List.idxOf_append_of_mem earlier]
    exact List.idxOf_lt_length_of_mem earlier
  have atI : (before ++ i :: after).idxOf i = before.length := by
    rw [List.idxOf_append_of_notMem fresh]
    simp
  omega

/-- **No cycle is reported exactly when the templates have an order of execution.** -/
theorem cycles_eq_nil_iff {g : Graph} (closed : g.Closed) :
    g.cycles = [] ↔ ∃ order, order.Perm (List.range g.size) ∧ g.IsOrder order := by
  constructor
  · intro none
    have all := (cycles_eq_nil_iff_sorted closed).1 none
    refine ⟨g.sorted, ?_, sorted_isOrder g⟩
    refine (List.perm_ext_iff_of_nodup (sorted_nodup g) List.nodup_range).2 fun i => ?_
    rw [List.mem_range]
    exact ⟨sorted_lt, all i⟩
  · rintro ⟨order, perm, ordered⟩
    have lower : ∀ i, ∀ j ∈ g.waitsFor i, order.idxOf j < order.idxOf i := by
      intro i j waits
      by_cases inside : i < g.size
      · exact idxOf_lt_of_isOrder ordered (perm.mem_iff.2 (List.mem_range.2 inside)) waits
      · rw [waitsFor_eq_nil (by omega)] at waits
        simp at waits
    unfold cycles
    rw [cyclesFrom_eq_nil_iff]
    intro i _
    exact Or.inr (walk_eq_none lower _ _ [i] (List.pairwise_singleton _ i))

end PromptPipeline.Validation.Graph
