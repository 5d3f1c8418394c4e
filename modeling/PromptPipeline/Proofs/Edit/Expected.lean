/-
# Proofs.Edit.Expected -- bounds on amounts, in any order

Commands that bound amounts all succeed on a new template exactly if they are `Compatible`: the
bounds of a unit from below agree, those from above agree, and they do not cross.  The template
then holds these bounds and no others (`Expectations.Holds`).  Both say only which commands there
are, so neither the order nor a repetition matters (`expected_in_any_order`).

That a run settles every side of the bounds is known for all commands (`TemplateStep.sets_bound`).
The other half is here: compatible commands succeed, for each of them finds what those before it
have set (`Compatible.run`).
-/
import PromptPipeline.Proofs.Edit.Agreement
import PromptPipeline.Proofs.Edit.Replay

namespace PromptPipeline

set_option autoImplicit false

open Directive

/-! ## What commands say of bounds -/

/-- The amounts that commands set on one side of the bounds of a unit. -/
def saidBounds (isUpper : Bool) (unit : AmountUnit) (cs : List Command) : List UInt32 :=
  cs.filterMap (Command.bound? isUpper unit)

/-- Commands whose bounds can be met together: for each unit those from below are the same, those
from above are the same, and no lower one is above an upper one. -/
structure Compatible (cs : List Command) : Prop where
  agree : ∀ isUpper unit, Agree (saidBounds isUpper unit cs)
  ordered : ∀ unit, ∀ low ∈ saidBounds false unit cs, ∀ high ∈ saidBounds true unit cs, low ≤ high

/-- Expectations on exactly the units of which commands speak, with exactly the bounds that they
set. -/
structure Expectations.Holds (cs : List Command) (e : Expectations) : Prop where
  bounded : ∀ unit, (e.get unit).isSome ↔ ∃ sign amount, .expectAmount sign unit amount ∈ cs
  side : ∀ unit isUpper amount, ((e.get unit).getD {}).side isUpper = some amount
    ↔ amount ∈ saidBounds isUpper unit cs

/-- A template and its pipeline after commands, unless one of them is refused. -/
def Draft.after (cs : List Command) (d : Draft) : Except (Refused Draft) Draft :=
  (cs.foldlM (fun d c => Grammar.standard.applyToTemplate c d) d).value

section

variable {cs cs' : List Command} {isUpper : Bool} {unit : AmountUnit} {amount : UInt32}

theorem Draft.after_ok_iff {d d' : Draft} :
    Draft.after cs d = .ok d' ↔ Steps TemplateStep cs d d' :=
  foldlM_applyToTemplate_ok_iff

/-- An amount is set on a side by a command whose sign bounds this side. -/
theorem mem_saidBounds_iff :
    amount ∈ saidBounds isUpper unit cs
      ↔ ∃ sign : BoundSign, (if isUpper then sign.boundsAbove else sign.boundsBelow) = true
        ∧ .expectAmount sign unit amount ∈ cs := by
  unfold saidBounds
  rw [List.mem_filterMap]
  constructor
  · rintro ⟨c, member, said⟩
    cases c with
    | expectAmount sign unit' amount' =>
        obtain ⟨⟨rfl, sets⟩, same⟩ := Option.ite_none_right_eq_some.1 said
        cases same
        exact ⟨sign, sets, member⟩
    | _ => cases said
  · rintro ⟨sign, sets, member⟩
    exact ⟨_, member, if_pos ⟨rfl, sets⟩⟩

theorem saidBounds_subset (subset : cs ⊆ cs') :
    saidBounds isUpper unit cs ⊆ saidBounds isUpper unit cs' :=
  List.filterMap_subset _ subset

/-- Fewer commands are compatible too. -/
theorem Compatible.of_subset (compatible : Compatible cs') (subset : cs ⊆ cs') :
    Compatible cs where
  agree := fun isUpper unit a ha b hb =>
    compatible.agree isUpper unit a (saidBounds_subset subset ha) b (saidBounds_subset subset hb)
  ordered := fun unit low hl high hh =>
    compatible.ordered unit low (saidBounds_subset subset hl) high (saidBounds_subset subset hh)

/-- Expectations hold what commands say, in whatever order these say it. -/
theorem Expectations.Holds.of_perm {e : Expectations} (holds : e.Holds cs) (perm : cs.Perm cs') :
    e.Holds cs' where
  bounded := by
    intro unit
    rw [holds.bounded]
    simp only [perm.mem_iff]
  side := by
    intro unit isUpper amount
    rw [holds.side]
    exact (perm.filterMap _).mem_iff

/-- Commands leave no choice of what is held. -/
theorem Expectations.Holds.unique {e e' : Expectations} (holds : e.Holds cs)
    (holds' : e'.Holds cs) : e = e' := by
  have side : ∀ unit isUpper,
      ((e.get unit).getD {}).side isUpper = ((e'.get unit).getD {}).side isUpper := by
    intro unit isUpper
    refine Option.ext fun amount => ?_
    rw [holds.side, holds'.side]
  refine Expectations.ext_get fun unit => ?_
  have bounded := (holds.bounded unit).trans (holds'.bounded unit).symm
  have min := side unit false
  have max := side unit true
  cases here : e.get unit with
  | none =>
      cases there : e'.get unit with
      | none => rfl
      | some b' => simp [here, there] at bounded
  | some b =>
      cases there : e'.get unit with
      | none => simp [here, there] at bounded
      | some b' =>
          rw [here, there] at min max
          exact congrArg₂ (fun low high => some (Bounds.mk low high)) min max

end

/-! ## Runs -/

section

variable {cs : List Command} {title content result : String} {p : Pipeline} {d : Draft}

/-- What a setting is has been said, and what has been said of it is what it is. -/
theorem Settled.eq_some_iff {α : Type} {view : Command → Option α} {setting : Option α} {a : α}
    (settled : Settled view cs setting) : setting = some a ↔ a ∈ cs.filterMap view := by
  constructor
  · intro is
    rw [settled.is, ← List.head?_filterMap] at is
    exact List.mem_of_mem_head? is
  · exact settled.eq_some

/-- Each side of the bounds of each unit after a run on a new template. -/
theorem Steps.settled_bound
    (run : Steps TemplateStep cs ⟨Template.new title content result, p⟩ d) (isUpper : Bool)
    (unit : AmountUnit) :
    Settled (Command.bound? isUpper unit) cs (d.template.bound isUpper unit) :=
  run.settled (TemplateStep.sets_bound isUpper unit) (by cases isUpper <;> cases unit <;> rfl)

/-- A run on a new template leaves bounds that are sound. -/
theorem Steps.sound_bounds
    (run : Steps TemplateStep cs ⟨Template.new title content result, p⟩ d) {unit : AmountUnit}
    {bounds : Bounds} (held : d.template.expectations.get unit = some bounds) : bounds.Sound := by
  have kept : ∀ c (m m' : Draft), TemplateStep c m m' → m.template.Coherent m.pipeline →
      m'.template.Coherent m'.pipeline := fun _ _ _ step => step.coherent
  exact (run.keeps kept (Template.coherent_new p title content result)).bounded unit bounds held

/-- **Commands that succeed are compatible.** -/
theorem Steps.compatible (run : Steps TemplateStep cs ⟨Template.new title content result, p⟩ d) :
    Compatible cs where
  agree := fun isUpper unit => (run.settled_bound isUpper unit).agree
  ordered := by
    intro unit low below high above
    have min : d.template.bound false unit = some low :=
      (run.settled_bound false unit).eq_some below
    have max : d.template.bound true unit = some high :=
      (run.settled_bound true unit).eq_some above
    unfold Template.bound at min max
    cases held : d.template.expectations.get unit with
    | none =>
        rw [held] at min
        cases min
    | some bounds =>
        rw [held] at min max
        exact (run.sound_bounds held).ordered low high min max

/-- **What a run on a new template holds.** -/
theorem Steps.holds (run : Steps TemplateStep cs ⟨Template.new title content result, p⟩ d) :
    d.template.expectations.Holds cs := by
  have side : ∀ unit isUpper amount,
      ((d.template.expectations.get unit).getD {}).side isUpper = some amount
        ↔ amount ∈ saidBounds isUpper unit cs :=
    fun unit isUpper amount => (run.settled_bound isUpper unit).eq_some_iff
  refine ⟨fun unit => ⟨fun bounded => ?_, ?_⟩, side⟩
  · obtain ⟨bounds, held⟩ := Option.isSome_iff_exists.1 bounded
    -- Bounds that are held bound at least one side, and some command has set it.
    have said : ∃ isUpper amount, amount ∈ saidBounds isUpper unit cs := by
      simp only [← side, held, Option.getD_some]
      rcases (run.sound_bounds held).bounds with below | above
      · obtain ⟨low, min⟩ := Option.ne_none_iff_exists'.1 below
        exact ⟨false, low, min⟩
      · obtain ⟨high, max⟩ := Option.ne_none_iff_exists'.1 above
        exact ⟨true, high, max⟩
    obtain ⟨isUpper, amount, member⟩ := said
    obtain ⟨sign, -, inside⟩ := mem_saidBounds_iff.1 member
    exact ⟨sign, amount, inside⟩
  · rintro ⟨sign, amount, member⟩
    have sets : ∃ isUpper : Bool,
        (if isUpper then sign.boundsAbove else sign.boundsBelow) = true := by
      cases sign with
      | minimum | exactly => exact ⟨false, rfl⟩
      | maximum => exact ⟨true, rfl⟩
    obtain ⟨isUpper, sets⟩ := sets
    have set := (side unit isUpper amount).2 (mem_saidBounds_iff.2 ⟨sign, sets, member⟩)
    cases held : d.template.expectations.get unit with
    | none =>
        rw [held] at set
        cases isUpper <;> cases set
    | some bounds => rfl

/-- Commands that bound amounts change nothing but the expectations. -/
theorem Steps.only_expectations {d' : Draft} (amounts : ∀ c ∈ cs, c.kind = .expectAmount)
    (run : Steps TemplateStep cs d d') :
    d' = { d with template.expectations := d'.template.expectations } := by
  induction run with
  | nil => rfl
  | cons step _ ih =>
      obtain ⟨first, others⟩ := List.forall_mem_cons.1 amounts
      rw [ih others]
      cases step with
      | expectAmount => rfl
      | _ => cases first

/-- Bounds that commands have set can be restricted by a command that is compatible with them. -/
theorem Compatible.restricts {sign : BoundSign} {unit : AmountUnit} {amount : UInt32} {b : Bounds}
    (compatible : Compatible (cs ++ [.expectAmount sign unit amount]))
    (set : ∀ isUpper, ∀ old ∈ b.side isUpper, old ∈ saidBounds isUpper unit cs) :
    Expect.Restricts sign amount b
      ⟨if sign.boundsBelow then some amount else b.min,
        if sign.boundsAbove then some amount else b.max⟩ := by
  have said : ∀ {isUpper old}, b.side isUpper = some old →
      old ∈ saidBounds isUpper unit (cs ++ [.expectAmount sign unit amount]) :=
    fun {_ _} is => saidBounds_subset (fun _ => List.mem_append_left _) (set _ _ is)
  have now : ∀ {isUpper : Bool},
      (if isUpper then sign.boundsAbove else sign.boundsBelow) = true →
      amount ∈ saidBounds isUpper unit (cs ++ [.expectAmount sign unit amount]) :=
    fun sets => mem_saidBounds_iff.2 ⟨sign, sets, List.mem_append_right _ List.mem_cons_self⟩
  have later : ∀ {isUpper : Bool} {new},
      (if (if isUpper then sign.boundsAbove else sign.boundsBelow) = true then some amount
        else b.side isUpper) = some new →
      new ∈ saidBounds isUpper unit (cs ++ [.expectAmount sign unit amount]) := by
    intro isUpper new is
    by_cases sets : (if isUpper then sign.boundsAbove else sign.boundsBelow) = true
    · rw [if_pos sets] at is
      cases is
      exact now sets
    · rw [if_neg sets] at is
      exact said is
  exact {
    below := fun sets old is => compatible.agree false unit old (said is) amount (now sets)
    above := fun sets old is => compatible.agree true unit old (said is) amount (now sets)
    min := rfl
    max := rfl
    ordered := fun low high min max => compatible.ordered unit low (later min) high (later max) }

/-- **Compatible commands that bound amounts succeed.** -/
theorem Compatible.run (compatible : Compatible cs) (amounts : ∀ c ∈ cs, c.kind = .expectAmount)
    (title content result : String) (p : Pipeline) :
    ∃ d, Steps TemplateStep cs ⟨Template.new title content result, p⟩ d := by
  -- The induction is from the end, so that the last command meets what all others have set.
  induction cs using List.reverseRecOn with
  | nil => exact ⟨_, .nil _⟩
  | append_singleton cs c ih =>
      have before : cs ⊆ cs ++ [c] := fun _ => List.mem_append_left _
      obtain ⟨m, run⟩ := ih (compatible.of_subset before) fun c' h => amounts c' (before h)
      have last := amounts c (List.mem_append_right _ List.mem_cons_self)
      cases c with
      | expectAmount sign unit amount =>
          have set : ∀ isUpper, ∀ old ∈ ((m.template.expectations.get unit).getD {}).side isUpper,
              old ∈ saidBounds isUpper unit cs :=
            fun isUpper old => (run.settled_bound isUpper unit).eq_some_iff.1
          exact ⟨_, Steps.concat_iff.2 ⟨m, run, Expect.step (compatible.restricts set)⟩⟩
      | _ => cases last

end

/-- **Bounds on amounts are intersected, in any order.**  Commands that bound amounts all succeed
on a new template exactly if they are compatible.  Then nothing but the expectations has changed,
and these are on exactly the units that were mentioned, with exactly the bounds that were set.
The same commands in another order succeed together with them and leave the same template. -/
theorem expected_in_any_order {cs : List Command} (amounts : ∀ c ∈ cs, c.kind = .expectAmount)
    (title content result : String) (p : Pipeline) :
    let new : Draft := ⟨Template.new title content result, p⟩
    ((∃ d, new.after cs = .ok d) ↔ Compatible cs)
      ∧ (∀ d, new.after cs = .ok d →
        d = { new with template.expectations := d.template.expectations }
          ∧ d.template.expectations.Holds cs)
      ∧ ∀ cs', cs.Perm cs' → ∀ d, new.after cs = .ok d ↔ new.after cs' = .ok d := by
  intro new
  have succeeds : ∀ {cs}, (∀ c ∈ cs, c.kind = .expectAmount) →
      ((∃ d, new.after cs = .ok d) ↔ Compatible cs) := by
    intro cs amounts
    simp only [Draft.after_ok_iff]
    exact ⟨fun ⟨_, run⟩ => run.compatible, fun compatible => compatible.run amounts _ _ _ _⟩
  have leaves : ∀ {cs d}, (∀ c ∈ cs, c.kind = .expectAmount) → new.after cs = .ok d →
      d = { new with template.expectations := d.template.expectations }
        ∧ d.template.expectations.Holds cs := by
    intro cs d amounts applied
    have run := Draft.after_ok_iff.1 applied
    exact ⟨run.only_expectations amounts, run.holds⟩
  have reordered : ∀ {cs cs' d}, (∀ c ∈ cs, c.kind = .expectAmount) → cs.Perm cs' →
      new.after cs = .ok d → new.after cs' = .ok d := by
    intro cs cs' d amounts perm applied
    have amounts' : ∀ c ∈ cs', c.kind = .expectAmount :=
      fun c member => amounts c (perm.mem_iff.2 member)
    have compatible := ((succeeds amounts).1 ⟨d, applied⟩).of_subset perm.symm.subset
    obtain ⟨d', applied'⟩ := (succeeds amounts').2 compatible
    obtain ⟨is, holds⟩ := leaves amounts applied
    obtain ⟨is', holds'⟩ := leaves amounts' applied'
    have same := (holds.of_perm perm).unique holds'
    rw [applied', is, is', same]
  refine ⟨succeeds amounts, fun d applied => leaves amounts applied, fun cs' perm d => ?_⟩
  have amounts' : ∀ c ∈ cs', c.kind = .expectAmount :=
    fun c member => amounts c (perm.mem_iff.2 member)
  exact ⟨reordered amounts perm, reordered amounts' perm.symm⟩

/-- Both bounds of one unit and an exact amount of another one, from the first to the last and
from the last to the first. -/
theorem expected_in_any_order_lines :
    let cs : List Command :=
      [.expectAmount .minimum .lines 2, .expectAmount .exactly .words 3,
        .expectAmount .maximum .lines 5]
    let new : Draft := ⟨Template.new "Step" "" "result", Pipeline.new "Script"⟩
    let bounded : Draft :=
      { new with
        template.expectations :=
          { words := some ⟨some 3, some 3⟩, lines := some ⟨some 2, some 5⟩ } }
    (∀ c ∈ cs, c.kind = .expectAmount) ∧ Compatible cs ∧ new.after cs = .ok bounded
      ∧ bounded.template.expectations.Holds cs ∧ new.after cs.reverse = .ok bounded := by
  intro cs new bounded
  have amounts : ∀ c ∈ cs, c.kind = .expectAmount := by decide
  have applied : new.after cs = .ok bounded :=
    Draft.after_ok_iff.2 <|
      .cons (.expectAmount rfl) <| .cons (.expectAmount rfl) <| .single (.expectAmount rfl)
  obtain ⟨succeeds, leaves, reordered⟩ :=
    expected_in_any_order amounts "Step" "" "result" (Pipeline.new "Script")
  exact ⟨amounts, succeeds.1 ⟨_, applied⟩, applied, (leaves _ applied).2,
    (reordered _ cs.reverse_perm.symm _).1 applied⟩

end PromptPipeline
