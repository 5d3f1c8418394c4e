/-
# Proofs.Edit.Run -- runs of edits

A result with notices is `.ok` exactly when every step before it is.  `Steps` is a
run of commands each of which makes one step of a relation; the laws here take runs
of edits apart and say what they keep.  What is said of a run command by command is
read off a list with one more element.
-/
import Mathlib.Data.List.Forall2
import Mathlib.Data.List.Induction
import PromptPipeline.Directive.Basic

namespace PromptPipeline

set_option autoImplicit false

/-! ## Results -/

theorem Except.bind_ok_iff {ε α β : Type} {x : Except ε α} {f : α → Except ε β} {b : β} :
    (x >>= f) = .ok b ↔ ∃ a, x = .ok a ∧ f a = .ok b := by
  cases x with
  | error e => simp [bind, Except.bind]
  | ok a => simp [bind, Except.bind]

/-- What is made of a result succeeds if the result does. -/
theorem Except.bind_pure_isOk_iff {ε α β : Type} {x : Except ε α} {f : α → β} :
    (∃ b, (x >>= fun a => pure (f a)) = .ok b) ↔ ∃ a, x = .ok a := by
  constructor
  · rintro ⟨b, made⟩
    obtain ⟨a, is, -⟩ := Except.bind_ok_iff.1 made
    exact ⟨a, is⟩
  · rintro ⟨a, rfl⟩
    exact ⟨f a, rfl⟩

theorem Except.mapError_ok_iff {ε ε' α : Type} {x : Except ε α} {f : ε → ε'} {a : α} :
    x.mapError f = .ok a ↔ x = .ok a := by
  cases x with
  | error e => simp [Except.mapError]
  | ok a => simp [Except.mapError]

/-- A success makes the one step that leads to its result. -/
theorem Except.ok_iff_of_only {ε α : Type} {Step : α → Prop} {a b : α} (step : Step a)
    (only : ∀ b, Step b → b = a) : (.ok a : Except ε α) = .ok b ↔ Step b := by
  constructor
  · intro same
    exact Except.ok.inj same ▸ step
  · intro other
    rw [only b other]

/-- A failure makes no step. -/
theorem Except.error_iff_of_none {ε α : Type} {Step : α → Prop} {e : ε} {b : α}
    (none : ∀ b, ¬Step b) : (.error e : Except ε α) = .ok b ↔ Step b := by
  constructor
  · intro same
    cases same
  · intro step
    exact absurd step (none b)

/-- A successful map succeeds at every element. -/
theorem Except.mapM_ok {ε α β : Type} {f : α → Except ε β} :
    ∀ {l : List α} {l' : List β}, l.mapM f = .ok l' → List.Forall₂ (fun a b => f a = .ok b) l l'
  | [], _, mapped => by
      rw [List.mapM_nil] at mapped
      cases mapped
      exact .nil
  | a :: l, _, mapped => by
      rw [List.mapM_cons] at mapped
      obtain ⟨b, first, rest⟩ := Except.bind_ok_iff.1 mapped
      obtain ⟨others, later, same⟩ := Except.bind_ok_iff.1 rest
      cases same
      exact .cons first (Except.mapM_ok later)

/-- A map succeeds if it does at every element. -/
theorem Except.mapM_isOk {ε α β : Type} {f : α → Except ε β} :
    ∀ {l : List α}, (∀ a ∈ l, ∃ b, f a = .ok b) → ∃ l', l.mapM f = .ok l'
  | [], _ => ⟨[], rfl⟩
  | a :: l, each => by
      obtain ⟨⟨b, first⟩, others⟩ := List.forall_mem_cons.1 each
      obtain ⟨l', rest⟩ := Except.mapM_isOk others
      refine ⟨b :: l', ?_⟩
      rw [List.mapM_cons, first]
      show (l.mapM f >>= fun l' => pure (b :: l')) = _
      rw [rest]
      rfl

/-- A map succeeds exactly if it does at every element. -/
theorem Except.mapM_isOk_iff {ε α β : Type} {f : α → Except ε β} {l : List α} :
    (∃ l', l.mapM f = .ok l') ↔ ∀ a ∈ l, ∃ b, f a = .ok b := by
  refine ⟨?_, Except.mapM_isOk⟩
  rintro ⟨l', mapped⟩
  have each := Except.mapM_ok mapped
  clear mapped
  induction each with
  | nil => exact fun _ member => nomatch member
  | cons first _ rest => exact List.forall_mem_cons.2 ⟨⟨_, first⟩, rest⟩

theorem Except.bind_error_iff {ε α β : Type} {x : Except ε α} {f : α → Except ε β} {e : ε} :
    (x >>= f) = .error e ↔ x = .error e ∨ ∃ a, x = .ok a ∧ f a = .error e := by
  cases x with
  | error e' => simp [bind, Except.bind]
  | ok a => simp [bind, Except.bind]

theorem Except.mapError_error_iff {ε ε' α : Type} {x : Except ε α} {f : ε → ε'} {e : ε'} :
    x.mapError f = .error e ↔ ∃ e₀, x = .error e₀ ∧ f e₀ = e := by
  cases x with
  | error e₀ => simp [Except.mapError]
  | ok a => simp [Except.mapError]

/-- What every error of a step is, every error of a run is. -/
theorem Except.of_foldlM_error {ε α σ : Type} {f : σ → α → Except ε σ} {P : ε → Prop}
    (step : ∀ s a e, f s a = .error e → P e) :
    ∀ {l : List α} {s : σ} {e : ε}, l.foldlM f s = .error e → P e
  | [], _, _, failed => nomatch failed
  | a :: l, s, e, failed => by
      rw [List.foldlM_cons] at failed
      rcases Except.bind_error_iff.1 failed with first | ⟨m, -, rest⟩
      · exact step s a e first
      · exact Except.of_foldlM_error step rest

namespace Logged

variable {ε α β σ : Type}

theorem bind_ok_iff {x : Logged ε α} {f : α → Logged ε β} {b : β} :
    (x >>= f).value = .ok b ↔ ∃ a, x.value = .ok a ∧ (f a).value = .ok b := by
  rw [value_bind, Except.bind_ok_iff]

theorem foldlM_nil_ok_iff {f : σ → α → Logged ε σ} {s s' : σ} :
    (([] : List α).foldlM f s).value = .ok s' ↔ s = s' := by
  rw [List.foldlM_nil, value_pure, Except.ok.injEq]

theorem foldlM_cons_ok_iff {f : σ → α → Logged ε σ} {a : α} {l : List α} {s s' : σ} :
    ((a :: l).foldlM f s).value = .ok s'
      ↔ ∃ m, (f s a).value = .ok m ∧ (l.foldlM f m).value = .ok s' := by
  rw [List.foldlM_cons, bind_ok_iff]

/-- What every successful step keeps, a successful run keeps. -/
theorem foldlM_keeps {f : σ → α → Logged ε σ} {I : σ → Prop}
    (step : ∀ s a s', (f s a).value = .ok s' → I s → I s') :
    ∀ {l : List α} {s s' : σ}, (l.foldlM f s).value = .ok s' → I s → I s'
  | [], _, _, ran, inv => foldlM_nil_ok_iff.1 ran ▸ inv
  | _ :: _, _, _, ran, inv => by
      obtain ⟨m, first, rest⟩ := foldlM_cons_ok_iff.1 ran
      exact foldlM_keeps step rest (step _ _ _ first inv)

/-- A run over elements that are changed first succeeds alike if no step depends on it. -/
theorem foldlM_map_ok_iff {f : σ → α → Logged ε σ} {g : α → α}
    (same : ∀ s a s', (f s (g a)).value = .ok s' ↔ (f s a).value = .ok s') {l : List α} {s s' : σ} :
    ((l.map g).foldlM f s).value = .ok s' ↔ (l.foldlM f s).value = .ok s' := by
  induction l generalizing s with
  | nil => exact Iff.rfl
  | cons a l ih =>
      rw [List.map_cons, foldlM_cons_ok_iff, foldlM_cons_ok_iff]
      exact exists_congr fun m => and_congr (same s a m) ih

theorem bind_error_iff {x : Logged ε α} {f : α → Logged ε β} {e : ε} :
    (x >>= f).value = .error e
      ↔ x.value = .error e ∨ ∃ a, x.value = .ok a ∧ (f a).value = .error e := by
  rw [value_bind, Except.bind_error_iff]

theorem foldlM_concat_ok_iff {f : σ → α → Logged ε σ} {a : α} {l : List α} {s s' : σ} :
    ((l ++ [a]).foldlM f s).value = .ok s'
      ↔ ∃ m, (l.foldlM f s).value = .ok m ∧ (f m a).value = .ok s' := by
  induction l generalizing s with
  | nil =>
      rw [List.nil_append, foldlM_cons_ok_iff]
      simp only [foldlM_nil_ok_iff, exists_eq_left', exists_eq_right]
  | cons first l ih =>
      simp only [List.cons_append, foldlM_cons_ok_iff, ih]
      constructor
      · rintro ⟨m, passed, m', ran, last⟩
        exact ⟨m', ⟨m, passed, ran⟩, last⟩
      · rintro ⟨m', ⟨m, passed, ran⟩, last⟩
        exact ⟨m, passed, m', ran, last⟩

/-- **A run fails at one element**, after those before it; those behind it have no say. -/
theorem foldlM_error_iff {f : σ → α → Logged ε σ} {l : List α} {s : σ} {e : ε} :
    (l.foldlM f s).value = .error e
      ↔ ∃ before a after m, l = before ++ a :: after ∧ (before.foldlM f s).value = .ok m
        ∧ (f m a).value = .error e := by
  induction l generalizing s with
  | nil =>
      constructor
      · intro failed
        cases failed
      · rintro ⟨before, a, after, m, split, -⟩
        exact absurd split.symm (by simp)
  | cons first l ih =>
      rw [List.foldlM_cons, bind_error_iff]
      constructor
      · rintro (failed | ⟨m, passed, failed⟩)
        · exact ⟨[], first, l, s, rfl, rfl, failed⟩
        · obtain ⟨before, a, after, m', rfl, ran, failed⟩ := ih.1 failed
          exact ⟨first :: before, a, after, m', rfl, foldlM_cons_ok_iff.2 ⟨m, passed, ran⟩, failed⟩
      · rintro ⟨before, a, after, m', split, ran, failed⟩
        cases before with
        | nil =>
            obtain ⟨rfl, rfl⟩ := List.cons.inj split
            obtain rfl := foldlM_nil_ok_iff.1 ran
            exact .inl failed
        | cons _ before =>
            obtain ⟨rfl, rfl⟩ := List.cons.inj split
            obtain ⟨m, passed, ran⟩ := foldlM_cons_ok_iff.1 ran
            exact .inr ⟨m, passed, ih.2 ⟨before, a, after, m', rfl, ran, failed⟩⟩

end Logged

/-! ## Lists with one more element -/

theorem findSome?_concat {α β : Type} (f : α → Option β) (l : List α) (a : α) :
    (l ++ [a]).findSome? f = (l.findSome? f).or (f a) := by
  rw [List.findSome?_append]
  cases h : f a <;> simp [h]

theorem filterMap_concat {α β : Type} (f : α → Option β) (l : List α) (a : α) :
    (l ++ [a]).filterMap f = l.filterMap f ++ (f a).toList := by
  rw [List.filterMap_append]
  cases h : f a <;> simp [h]

/-- A relation that holds between any two elements holds between the last one and all others. -/
theorem related_concat_iff {α : Type} {R : α → α → Prop} (reflexive : ∀ a, R a a)
    (symmetric : ∀ a b, R a b → R b a) {l : List α} {last : Option α} :
    (∀ a ∈ l ++ last.toList, ∀ b ∈ l ++ last.toList, R a b)
      ↔ (∀ a ∈ l, ∀ b ∈ l, R a b) ∧ ∀ b ∈ last, ∀ a ∈ l, R a b := by
  cases last with
  | none => simp
  | some b =>
      rw [Option.toList_some]
      constructor
      · intro related
        refine ⟨fun a ha a' ha' => ?_, fun b' now a ha => ?_⟩
        · exact related a (List.mem_append_left _ ha) a' (List.mem_append_left _ ha')
        · obtain rfl : b = b' := Option.some.inj now
          exact related a (List.mem_append_left _ ha) b
            (List.mem_append_right _ List.mem_cons_self)
      · rintro ⟨related, new⟩
        refine List.forall_mem_append.2 ⟨fun a ha => ?_, List.forall_mem_singleton.2 ?_⟩
        · exact List.forall_mem_append.2
            ⟨related a ha, List.forall_mem_singleton.2 (new b rfl a ha)⟩
        · exact List.forall_mem_append.2
            ⟨fun a ha => symmetric a b (new b rfl a ha), List.forall_mem_singleton.2 (reflexive b)⟩

/-! ## Runs of commands -/

/-- A run of commands, each of which makes one step. -/
inductive Steps {σ : Type} (step : Command → σ → σ → Prop) : List Command → σ → σ → Prop
  | nil (s : σ) : Steps step [] s s
  | cons {c : Command} {cs : List Command} {s m s' : σ} :
      step c s m → Steps step cs m s' → Steps step (c :: cs) s s'

namespace Steps

variable {σ : Type} {step : Command → σ → σ → Prop} {c : Command} {cs ds : List Command}
  {s m s' : σ}

theorem single (h : step c s s') : Steps step [c] s s' := cons h (nil s')

theorem append (first : Steps step cs s m) (second : Steps step ds m s') :
    Steps step (cs ++ ds) s s' := by
  induction first with
  | nil => exact second
  | cons h _ ih => exact cons h (ih second)

/-- The last command of a run makes the last step. -/
theorem concat_iff : Steps step (cs ++ [c]) s s' ↔ ∃ m, Steps step cs s m ∧ step c m s' := by
  constructor
  · intro run
    induction cs generalizing s with
    | nil =>
        cases run with
        | cons h rest =>
            cases rest
            exact ⟨s, nil s, h⟩
    | cons first cs ih =>
        cases run with
        | cons h rest =>
            obtain ⟨m, before, last⟩ := ih rest
            exact ⟨m, cons h before, last⟩
  · rintro ⟨m, before, last⟩
    exact before.append (single last)

/-- What a command needs to make a step, all commands of a run have. -/
theorem forall_mem {P : Command → Prop} (needs : ∀ c s s', step c s s' → P c)
    (run : Steps step cs s s') : ∀ c ∈ cs, P c := by
  induction run with
  | nil => exact fun _ member => nomatch member
  | cons h _ ih => exact List.forall_mem_cons.2 ⟨needs _ _ _ h, ih⟩

/-- What every step adds to an account of the commands before it, a run adds. -/
theorem keeps_done {I : List Command → σ → Prop}
    (kept : ∀ cs c s s', step c s s' → I cs s → I (cs ++ [c]) s')
    (run : Steps step cs s s') (inv : I [] s) : I cs s' := by
  induction cs using List.reverseRecOn generalizing s' with
  | nil =>
      cases run
      exact inv
  | append_singleton cs c ih =>
      obtain ⟨m, before, last⟩ := concat_iff.1 run
      exact kept cs c m s' last (ih before)

/-- What every step keeps, a run keeps. -/
theorem keeps {Inv : σ → Prop} (kept : ∀ c s s', step c s s' → Inv s → Inv s')
    (run : Steps step cs s s') (inv : Inv s) : Inv s' := by
  induction run with
  | nil => exact inv
  | cons h _ ih => exact ih (kept _ _ _ h inv)

/-- What no step changes, no run changes. -/
theorem kept {α : Type} (part : σ → α) (same : ∀ c s s', step c s s' → part s' = part s)
    (run : Steps step cs s s') : part s' = part s := by
  have stays : ∀ c m m', step c m m' → part m = part s → part m' = part s :=
    fun c m m' h before => (same c m m' h).trans before
  exact @keeps _ _ _ _ _ (fun m => part m = part s) stays run rfl

/-- A list is restored by one command for each element, made in order, if the command
of an element puts it after those that come before it. -/
theorem restores {α : Type} (state : List α → σ) {command : α → Command} {whole : List α}
    (one : ∀ before a after, before ++ a :: after = whole →
      step (command a) (state before) (state (before ++ [a]))) :
    Steps step (whole.map command) (state []) (state whole) := by
  -- The induction is on what is still to come, for any part that is there already.
  have rest : ∀ after before, before ++ after = whole →
      Steps step (after.map command) (state before) (state whole) := by
    intro after
    induction after with
    | nil =>
        intro before split
        rw [List.append_nil] at split
        exact split ▸ nil _
    | cons a after ih =>
        intro before split
        exact cons (one before a after split) (ih (before ++ [a]) (by simpa using split))
  exact rest whole [] rfl

/-- A run of edits is a run of the steps that they make. -/
theorem foldlM_ok_iff {edit : Command → Edit σ}
    (does : ∀ c s s', (edit c s).value = .ok s' ↔ step c s s') :
    (cs.foldlM (fun s c => edit c s) s).value = .ok s' ↔ Steps step cs s s' := by
  induction cs generalizing s with
  | nil =>
      rw [Logged.foldlM_nil_ok_iff]
      constructor
      · rintro rfl
        exact nil s
      · intro run
        cases run
        rfl
  | cons c cs ih =>
      rw [Logged.foldlM_cons_ok_iff]
      constructor
      · rintro ⟨m, first, rest⟩
        exact cons ((does c s m).1 first) (ih.1 rest)
      · intro run
        cases run with
        | cons h rest => exact ⟨_, (does c s _).2 h, ih.2 rest⟩

end Steps

end PromptPipeline
