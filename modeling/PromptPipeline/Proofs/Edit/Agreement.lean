/-
# Proofs.Edit.Agreement -- no setting of a template is overwritten

Commands that succeed on a template one after the other agree on its variant, its model name,
its persona and its bounds, and the template holds what they say (`template_follows`).  `Sets` is
what one command does to a setting and `Settled` what a run of commands makes of it; a step is
proved for each setting, the run for all of them at once (`Steps.settled`).

The execution is the exception.  A template that is executed as a prompt template, as every new
one is, can be given another execution even if a command has said that it is
(`execution_overwritten`).
-/
import PromptPipeline.Proofs.Edit.Coherent
import PromptPipeline.Proofs.Edit.Setting

namespace PromptPipeline

set_option autoImplicit false

open Directive

/-! ## One setting -/

/-- All that is said is the same. -/
def Agree {α : Type} (said : List α) : Prop := ∀ a ∈ said, ∀ b ∈ said, a = b

instance {α : Type} [DecidableEq α] (said : List α) : Decidable (Agree said) :=
  inferInstanceAs (Decidable (∀ a ∈ said, ∀ b ∈ said, a = b))

/-- What a command does to a setting: it sets one that is not set, and agrees with one that is. -/
structure Sets {α : Type} (said setting setting' : Option α) : Prop where
  agrees : ∀ a ∈ said, ∀ existing ∈ setting, existing = a
  is : setting' = setting.or said

/-- What commands make of a setting that was not set: they agree, and it is what they say. -/
structure Settled {α : Type} (view : Command → Option α) (cs : List Command)
    (setting : Option α) : Prop where
  agree : Agree (cs.filterMap view)
  is : setting = cs.findSome? view

section

variable {α : Type} {view : Command → Option α} {cs : List Command} {c : Command}
  {setting setting' : Option α} {a : α}

theorem sets_silent (setting : Option α) : Sets none setting setting where
  agrees := fun _ said => nomatch said
  is := Option.or_none.symm

theorem sets_said (agrees : ∀ existing, setting = some existing → existing = a) :
    Sets (some a) setting (some a) where
  agrees := by
    rintro _ ⟨⟩ existing set
    exact agrees existing set
  is := by
    cases setting with
    | none => rfl
    | some existing => exact congrArg some (agrees existing rfl).symm

theorem settled_nil : Settled view [] none where
  agree := fun _ said => nomatch said
  is := rfl

/-- What was said is what the setting is. -/
theorem Settled.eq_some (settled : Settled view cs setting) (said : a ∈ cs.filterMap view) :
    setting = some a := by
  rw [settled.is, ← List.head?_filterMap]
  cases first : (cs.filterMap view).head? with
  | none => rw [List.head?_eq_none_iff.1 first] at said; cases said
  | some b => rw [settled.agree a said b (List.mem_of_mem_head? first)]

/-- **One more command keeps a setting settled.** -/
theorem Settled.concat (settled : Settled view cs setting) (sets : Sets (view c) setting setting') :
    Settled view (cs ++ [c]) setting' where
  agree := by
    unfold Agree
    rw [filterMap_concat, related_concat_iff (fun _ => rfl) fun _ _ => Eq.symm]
    exact ⟨settled.agree, fun b now a before => sets.agrees b now a (settled.eq_some before)⟩
  is := by rw [findSome?_concat, sets.is, settled.is]

end

/-! ## The execution -/

/-- Executions that are demanded one after the other, each of them kept by the next one unless it
is that of a prompt template, and the one that they lead to. -/
structure Executed (demanded : List Execution) (execution : Execution) : Prop where
  agree : demanded.Pairwise fun e e' => e = .promptTemplate ∨ e = e'
  is : execution = demanded.getLast?.getD .promptTemplate

/-- What was demanded is kept, unless it is a prompt template. -/
theorem Executed.kept {demanded : List Execution} {execution e : Execution}
    (executed : Executed demanded execution) (member : e ∈ demanded) :
    e = .promptTemplate ∨ e = execution := by
  obtain ⟨agree, is⟩ := executed
  rcases List.eq_nil_or_concat demanded with rfl | ⟨before, last, rfl⟩
  · cases member
  · rw [List.concat_eq_append] at agree is member
    obtain rfl : execution = last := by simpa using is
    rcases List.mem_append.1 member with earlier | now
    · exact (List.pairwise_append.1 agree).2.2 e earlier execution List.mem_cons_self
    · exact .inr (List.mem_singleton.1 now)

theorem Executed.concat {demanded : List Execution} {execution execution' : Execution}
    {said : Option Execution} (executed : Executed demanded execution)
    (agrees : ∀ e ∈ said, execution = .promptTemplate ∨ execution = e)
    (is : execution' = said.getD execution) : Executed (demanded ++ said.toList) execution' := by
  cases said with
  | none =>
      rw [is, Option.toList_none, List.append_nil]
      exact executed
  | some e =>
      refine ⟨List.pairwise_append.2 ⟨executed.agree, List.pairwise_singleton _ _, ?_⟩, ?_⟩
      · intro before earlier last now
        obtain rfl := List.mem_singleton.1 now
        rcases executed.kept earlier with prompt | rfl
        · exact .inl prompt
        · exact agrees last rfl
      · rw [is, Option.toList_some, List.getLast?_concat]
        rfl

/-! ## One command -/

/-- Each side of bounds. -/
def Bounds.side (isUpper : Bool) (b : Bounds) : Option UInt32 := if isUpper then b.max else b.min

/-- Each side of the bounds of each unit. -/
def Template.bound (isUpper : Bool) (unit : AmountUnit) (t : Template) : Option UInt32 :=
  ((t.expectations.get unit).getD {}).side isUpper

section

variable {c : Command} {d d' : Draft}

theorem TemplateStep.sets_variant (step : TemplateStep c d d') :
    Sets c.variant? (d.template.requirements.getD {}).variant
      (d'.template.requirements.getD {}).variant := by
  cases step with
  | @modelVariant value variant _ known agrees =>
      have required : (Command.model .variant value).variant? = some variant := known
      rw [required]
      exact sets_said agrees
  | parameter | execute | modelName | persona | knowledge | expectAmount | expectFormat
  | postprocess | joker => exact sets_silent _

theorem TemplateStep.sets_modelName (step : TemplateStep c d d') :
    Sets c.modelName? (d.template.requirements.getD {}).name
      (d'.template.requirements.getD {}).name := by
  cases step with
  | modelName agrees => exact sets_said agrees
  | parameter | execute | modelVariant | persona | knowledge | expectAmount | expectFormat
  | postprocess | joker => exact sets_silent _

theorem TemplateStep.sets_speaker (step : TemplateStep c d d') :
    Sets c.speaker? d.template.persona d'.template.persona := by
  cases step with
  | persona _ agrees => exact sets_said agrees
  | parameter | execute | modelVariant | modelName | knowledge | expectAmount | expectFormat
  | postprocess | joker => exact sets_silent _

/-- An expectation sets the sides that its sign bounds. -/
theorem sets_of_restricts {sign : BoundSign} {amount : UInt32} {b b' : Bounds}
    (restricts : Expect.Restricts sign amount b b') (isUpper : Bool) :
    Sets (if (if isUpper then sign.boundsAbove else sign.boundsBelow) = true then some amount
        else none) (b.side isUpper) (b'.side isUpper) := by
  have side : ∀ {bounded : Bool} {old new : Option UInt32},
      (bounded = true → ∀ existing, old = some existing → existing = amount) →
      new = (if bounded then some amount else old) →
      Sets (if bounded = true then some amount else none) old new := by
    intro bounded old new agrees is
    subst is
    cases bounded with
    | false => exact sets_silent old
    | true => exact sets_said (agrees rfl)
  cases isUpper with
  | false => exact side restricts.below restricts.min
  | true => exact side restricts.above restricts.max

theorem TemplateStep.sets_bound (isUpper : Bool) (unit : AmountUnit) (step : TemplateStep c d d') :
    Sets (c.bound? isUpper unit) (d.template.bound isUpper unit)
      (d'.template.bound isUpper unit) := by
  cases step with
  | @expectAmount sign unit' amount _ bounds restricted =>
      have sets := sets_of_restricts (Expect.restrict_ok_iff.1 restricted) isUpper
      simp only [Template.bound, Command.bound?, Expectations.get_set]
      by_cases same : unit' = unit
      · subst same
        simpa only [true_and, if_true, Option.getD_some] using sets
      · rw [if_neg (Ne.symm same), if_neg fun both => same both.1]
        exact sets_silent _
  | parameter | execute | modelVariant | modelName | persona | knowledge | expectFormat
  | postprocess | joker => exact sets_silent _

/-- A command that requires a variant requires one that there is. -/
theorem TemplateStep.known (step : TemplateStep c d d') (value : String)
    (required : .model .variant value = c) :
    ∃ variant, ModelVariant.ofKeyword? value = some variant := by
  subst required
  cases step with
  | modelVariant known => exact ⟨_, known⟩

/-- A command that demands an execution agrees with the one there is, or that is the one of a
prompt template; no other command changes it. -/
theorem TemplateStep.executes (step : TemplateStep c d d') :
    (∀ execution ∈ c.execution?,
        d.template.execution = .promptTemplate ∨ d.template.execution = execution)
      ∧ d'.template.execution = c.execution?.getD d.template.execution := by
  cases step with
  | execute agrees =>
      refine ⟨?_, rfl⟩
      rintro _ ⟨⟩
      exact agrees
  | parameter | modelVariant | modelName | persona | knowledge | expectAmount | expectFormat
  | postprocess | joker => exact ⟨fun _ demanded => (nomatch demanded), rfl⟩

end

/-! ## All commands -/

/-- Commands that agree, but for the execution of a prompt template, and a template that holds
what they say. -/
structure Template.Follows (cs : List Command) (t : Template) : Prop where
  known : ∀ value, .model .variant value ∈ cs →
    ∃ variant, ModelVariant.ofKeyword? value = some variant
  variants : Agree (cs.filterMap Command.variant?)
  modelNames : Agree (cs.filterMap Command.modelName?)
  speakers : Agree (cs.filterMap Command.speaker?)
  bounds : ∀ isUpper unit, Agree (cs.filterMap (Command.bound? isUpper unit))
  execution : Executed (cs.filterMap Command.execution?) t.execution
  requirements : t.requirements = requirementsOf cs
  persona : t.persona = cs.findSome? Command.speaker?
  expectations : ∀ unit, t.expectations.get unit = boundsOf unit cs

section

variable {cs : List Command} {d d' : Draft}

/-- **What a run makes of a setting**, if each command sets it to what it says of it. -/
theorem Steps.settled {α : Type} {view : Command → Option α} {setting : Draft → Option α}
    (sets : ∀ {c d d'}, TemplateStep c d d' → Sets (view c) (setting d) (setting d'))
    (unset : setting d = none) (run : Steps TemplateStep cs d d') :
    Settled view cs (setting d') := by
  refine run.keeps_done (I := fun done m => Settled view done (setting m)) ?_ (unset ▸ settled_nil)
  intro done c m m' step settled
  exact settled.concat (sets step)

theorem Steps.executed (fresh : d.template.execution = .promptTemplate)
    (run : Steps TemplateStep cs d d') :
    Executed (cs.filterMap Command.execution?) d'.template.execution := by
  refine run.keeps_done (I := fun done m =>
    Executed (done.filterMap Command.execution?) m.template.execution) ?_ ⟨.nil, fresh⟩
  intro done c m m' step executed
  obtain ⟨agrees, is⟩ := step.executes
  rw [filterMap_concat]
  exact executed.concat agrees is

end

/-- **No setting of a template is overwritten.**  Commands that all succeed on a new template
agree on its variant, its model name, its persona and every side of its bounds, its execution is
changed only if it is that of a prompt template, and the template ends with what they say. -/
theorem template_follows {title content result : String} {p : Pipeline} {cs : List Command}
    {d : Draft}
    (applied : (cs.foldlM (fun d c => Grammar.standard.applyToTemplate c d)
      ⟨Template.new title content result, p⟩).value = .ok d) :
    d.template.Follows cs := by
  have run := foldlM_applyToTemplate_ok_iff.1 applied
  have kept : ∀ c (m m' : Draft), TemplateStep c m m' → m.template.Coherent m.pipeline →
      m'.template.Coherent m'.pipeline := fun _ _ _ step => step.coherent
  have coherent := run.keeps kept (Template.coherent_new p title content result)
  have variant := run.settled TemplateStep.sets_variant rfl
  have modelName := run.settled TemplateStep.sets_modelName rfl
  have speaker := run.settled TemplateStep.sets_speaker rfl
  have bound := fun isUpper unit =>
    run.settled (TemplateStep.sets_bound isUpper unit) (by cases isUpper <;> cases unit <;> rfl)
  have known := run.forall_mem fun _ _ _ step => step.known
  refine ⟨fun value member => known _ member value rfl, variant.agree, modelName.agree,
    speaker.agree, fun isUpper unit => (bound isUpper unit).agree, run.executed rfl, ?_,
    speaker.is, ?_⟩
  · exact eq_unlessBlank (congrArg₂ ModelRequirements.mk variant.is modelName.is)
      coherent.demanding
  · intro unit
    refine eq_unlessBlank (congrArg₂ Bounds.mk (bound false unit).is (bound true unit).is) ?_
    intro blank
    rcases (coherent.bounded unit {} blank).bounds with absent | absent
    · exact absent rfl
    · exact absent rfl

/-- A template that is made a script, after a choice of the model, the persona and bounds. -/
theorem template_follows_script :
    let cs : List Command :=
      [.model .variant "Chat", .model .name "gpt-4", .persona "Jane" none,
        .expectAmount .minimum .words 3, .expectAmount .exactly .lines 2, .execute .script]
    ∃ d, (cs.foldlM (fun d c => Grammar.standard.applyToTemplate c d)
        ⟨Template.new "Step" "" "result", Pipeline.new "Script"⟩).value = .ok d
      ∧ d.template.Follows cs := by
  intro cs
  have chat : ModelVariant.ofKeyword? "Chat" = some .chat := rfl
  have unset : ∀ {α : Type} {a : α} (existing : α), none = some existing → existing = a :=
    fun _ set => nomatch set
  obtain ⟨d, applied⟩ : ∃ d, Steps TemplateStep cs
      ⟨Template.new "Step" "" "result", Pipeline.new "Script"⟩ d :=
    ⟨_, .cons (.modelVariant chat unset) <| .cons (.modelName unset) <|
      .cons (.persona none unset) <| .cons (.expectAmount rfl) <| .cons (.expectAmount rfl) <|
      .single (.execute (.inl rfl))⟩
  have ran := foldlM_applyToTemplate_ok_iff.2 applied
  exact ⟨d, ran, template_follows ran⟩

/-- The execution of a prompt template is overwritten, though a command has asked for it: both
commands succeed, they disagree, and the first one has left nothing behind. -/
theorem execution_overwritten :
    let cs : List Command := [.execute .promptTemplate, .execute .script]
    (cs.foldlM (fun d c => Grammar.standard.applyToTemplate c d)
        ⟨Template.new "Step" "" "result", Pipeline.new "Script"⟩).value
        = .ok ⟨{ Template.new "Step" "" "result" with execution := .script },
            Pipeline.new "Script"⟩
      ∧ ¬Agree (cs.filterMap Command.execution?) := by
  refine ⟨?_, by decide⟩
  have applied : Steps TemplateStep [.execute .promptTemplate, .execute .script]
      ⟨Template.new "Step" "" "result", Pipeline.new "Script"⟩ _ :=
    .cons (.execute (.inl rfl)) (.single (.execute (.inl rfl)))
  exact foldlM_applyToTemplate_ok_iff.2 applied

end PromptPipeline
