/-
# Proofs.Edit.Personas -- what is told of a persona is kept

Commands are given to a head and to templates beside it, in any mix (`Desk.Runs`).  Whatever the
mix, the personas of the pipeline are those that the commands mention, in the order in which they
come up, and the description of each one is put together from all that is told of it
(`Desk.Runs.personas`).

A description that is merged into another one either stands in it or is put at its end.  So a
description only grows at its end, everything that was told of a persona stands in it from then
on, and telling it again, however much later, adds nothing (`merge_of_stands`).
-/
import Mathlib.Logic.Function.Basic
import PromptPipeline.Proofs.Edit.Agreement
import PromptPipeline.Proofs.Edit.Head

namespace PromptPipeline

set_option autoImplicit false

/-! ## Merging -/

theorem Text.containsText_iff {needle s : List Char} :
    containsText needle s = true ↔ needle <:+: s := by
  induction s with
  | nil => simp [containsText]
  | cons c s ih =>
      rw [containsText, Bool.or_eq_true, ih, List.infix_cons_iff, List.isPrefixOf_iff_prefix]

namespace Directive.Persona

variable {existing addition : String}

/-- A description that stands in another one adds nothing to it. -/
theorem merge_of_stands (stands : (Text.trim addition).toList <:+: existing.toList) :
    merge existing addition = existing := by
  have contained : Text.contains (Text.trim addition) existing = true :=
    Text.containsText_iff.2 stands
  simp only [merge, contained, Bool.or_true, if_true]

/-- **Merging only puts something at the end**, and then the description stands there. -/
theorem merge_spec (existing addition : String) :
    existing.toList <+: (merge existing addition).toList
      ∧ (Text.trim addition).toList <:+: (merge existing addition).toList := by
  simp only [merge]
  split
  · rename_i known
    refine ⟨List.prefix_rfl, ?_⟩
    rcases Bool.or_eq_true_iff.1 known with nothing | contained
    · rw [String.isEmpty_iff.1 nothing]
      exact List.nil_infix
    · exact Text.containsText_iff.1 contained
  · split
    · rename_i first
      rw [String.isEmpty_iff.1 first]
      exact ⟨List.nil_prefix, List.infix_rfl⟩
    · rw [String.toList_append, String.toList_append]
      exact ⟨⟨_, (List.append_assoc ..).symm⟩, (List.suffix_append _ _).isInfix⟩

/-- What is merged into a description stands in it after all that is merged later. -/
theorem infix_foldl_merge {told : List String} (start : String) (member : addition ∈ told) :
    (Text.trim addition).toList <:+: (told.foldl merge start).toList := by
  have grows : ∀ (later : List String) (start : String),
      start.toList <+: (later.foldl merge start).toList := by
    intro later
    induction later with
    | nil => exact fun _ => List.prefix_rfl
    | cons next later ih => exact fun start => (merge_spec start next).1.trans (ih _)
  obtain ⟨before, after, rfl⟩ := List.append_of_mem member
  rw [List.foldl_append, List.foldl_cons]
  exact (merge_spec _ addition).2.trans (grows after _).isInfix

/-! ## Registering -/

/-- The personas after telling of one more: those that were there, with nothing but more at the
end of their descriptions, and new ones behind them. -/
def Extends (before after : List PromptPipeline.Persona) : Prop :=
  ∃ told new, after = told ++ new
    ∧ List.Forall₂ (fun q q' => q' = { q with description := q'.description }
      ∧ q.description.toList <+: q'.description.toList) before told

theorem extends_refl (l : List PromptPipeline.Persona) : Extends l l :=
  ⟨l, [], l.append_nil.symm, List.forall₂_same.2 fun _ _ => ⟨rfl, List.prefix_rfl⟩⟩

/-- **Registering only extends the personas.** -/
theorem register_extends (name description : String) (l : List PromptPipeline.Persona) :
    Extends l (register name description l) := by
  induction l with
  | nil => exact ⟨[], _, rfl, .nil⟩
  | cons first rest ih =>
      rw [register]
      split
      · have grown := (merge_spec first.description description).1
        generalize merge first.description description = merged at grown ⊢
        let told : PromptPipeline.Persona := { first with description := merged }
        exact ⟨told :: rest, [], (List.append_nil _).symm,
          .cons ⟨rfl, grown⟩ (List.forall₂_same.2 fun _ _ => ⟨rfl, List.prefix_rfl⟩)⟩
      · obtain ⟨told, new, is, grown⟩ := ih
        exact ⟨first :: told, new, by rw [is, List.cons_append], .cons ⟨rfl, List.prefix_rfl⟩ grown⟩

/-- A persona of whom it has been told already is registered as it is. -/
theorem register_of_told {name description : String} {l : List PromptPipeline.Persona}
    (unique : (l.map PromptPipeline.Persona.name).Nodup)
    (told : ∃ q ∈ l, q.name = name
      ∧ (Text.trim description).toList <:+: q.description.toList) :
    register name description l = l := by
  obtain ⟨q, member, named, stands⟩ := told
  rw [register_of_mem unique ⟨q, member, named⟩]
  refine (List.map_congr_left fun other inside => ?_).trans l.map_id
  split
  · rename_i same
    obtain rfl : other = q := List.inj_on_of_nodup_map unique inside member (same.trans named.symm)
    rw [merge_of_stands stands]
    rfl
  · rfl

theorem mem_toldOf_iff {told : List (String × String)} {name description : String} :
    description ∈ toldOf told name ↔ (name, description) ∈ told := by
  unfold toldOf
  simp

/-- **All that is told of a persona stands in its description.** -/
theorem described_told {told : List (String × String)} {name description : String}
    (member : (name, description) ∈ told) :
    ∃ q ∈ described told, q.name = name
      ∧ (Text.trim description).toList <:+: q.description.toList := by
  refine ⟨_, List.mem_map_of_mem (List.mem_eraseDups.2 (List.mem_map_of_mem member)), rfl, ?_⟩
  exact infix_foldl_merge "" (mem_toldOf_iff.2 member)

end Directive.Persona

open Directive.Persona

/-! ## One command -/

/-- The personas that a command leaves. -/
def Command.register (c : Command) (l : List Persona) : List Persona :=
  match c.persona? with
  | some (name, description) => Directive.Persona.register name description l
  | none => l

theorem HeadStep.personas {c : Command} {p p' : Pipeline} (step : HeadStep c p p') :
    p'.personas = c.register p.personas := by
  cases step with
  | url | version | parameter | modelVariant | modelName | persona => rfl
  | knowledge registered =>
      rcases Directive.Knowledge.register_ok_iff.1 registered with ⟨_, -, -, rfl⟩ | ⟨-, rfl⟩
      · rfl
      · rfl

theorem TemplateStep.personas {c : Command} {d d' : Draft} (step : TemplateStep c d d') :
    d'.pipeline.personas = c.register d.pipeline.personas := by
  cases step with
  | parameter declared => exact declared.personas
  | knowledge registered =>
      exact (HeadStep.knowledge (p := d.pipeline) registered).personas
  | persona | execute | modelVariant | modelName | expectAmount | expectFormat | postprocess
  | joker => rfl

/-! ## Commands in any mix -/

/-- Where a command is given. -/
inductive Site (ι : Type)
  | head
  | template (i : ι)

/-- A pipeline under construction and the templates beside it. -/
structure Desk (ι : Type) where
  pipeline : Pipeline
  templates : ι → Template

namespace Desk

section

variable {ι : Type} {done : List (Site ι × Command)} {site : Site ι} {c : Command}

/-- What commands tell of personas. -/
def told (done : List (Site ι × Command)) : List (String × String) :=
  done.filterMap fun x => x.2.persona?

theorem mem_told {name : String} {description : Option String}
    (member : (site, .persona name description) ∈ done) :
    (name, description.getD "") ∈ told done :=
  List.mem_filterMap.2 ⟨_, member, rfl⟩

/-- One more command registers the persona that it is about. -/
theorem described_told_concat :
    described (told (done ++ [(site, c)])) = c.register (described (told done)) := by
  unfold told
  rw [filterMap_concat]
  cases h : c.persona? with
  | none => simp [Command.register, h]
  | some x => simpa [Command.register, h] using described_concat x.2

/-- A template speaks as each persona that a command at it was about. -/
def Speaks (done : List (Site ι × Command)) (d : Desk ι) : Prop :=
  ∀ i name description, (.template i, .persona name description) ∈ done →
    (d.templates i).persona = some name

end

variable {ι : Type} [DecidableEq ι]

/-- A command succeeds where it is given. -/
inductive Applies (c : Command) : Site ι → Desk ι → Desk ι → Prop
  | head {p p' : Pipeline} {ts : ι → Template}
      (applied : (Grammar.standard.applyToHead c p).value = .ok p') :
      Applies c .head ⟨p, ts⟩ ⟨p', ts⟩
  | template {i : ι} {p p' : Pipeline} {ts : ι → Template} {t : Template}
      (applied : (Grammar.standard.applyToTemplate c ⟨ts i, p⟩).value = .ok ⟨t, p'⟩) :
      Applies c (.template i) ⟨p, ts⟩ ⟨p', Function.update ts i t⟩

/-- Commands that succeed one after the other, each where it is given. -/
inductive Runs (start : Desk ι) : List (Site ι × Command) → Desk ι → Prop
  | nil : Runs start [] start
  | snoc {done : List (Site ι × Command)} {d d' : Desk ι} {site : Site ι} {c : Command} :
      Runs start done d → Applies c site d d' → Runs start (done ++ [(site, c)]) d'

variable {start d d' : Desk ι} {done : List (Site ι × Command)} {site : Site ι} {c : Command}

/-- Wherever a command is given, it registers the persona that it is about. -/
theorem Applies.personas (applies : Applies c site d d') :
    d'.pipeline.personas = c.register d.pipeline.personas := by
  cases applies with
  | head applied => exact (applyToHead_ok_iff.1 applied).personas
  | template applied => exact (applyToTemplate_ok_iff.1 applied).personas

/-- **Every command only extends the personas.** -/
theorem Applies.extends (applies : Applies c site d d') :
    Extends d.pipeline.personas d'.pipeline.personas := by
  rw [applies.personas, Command.register]
  split
  · exact register_extends _ _ _
  · exact extends_refl _

/-- No command makes a template speak as another persona than it does. -/
theorem Applies.speaks (applies : Applies c site d d') (speaks : Speaks done d) :
    Speaks (done ++ [(site, c)]) d' := by
  intro i name description member
  cases applies with
  | head =>
      rcases List.mem_append.1 member with before | last
      · exact speaks i name description before
      · cases List.mem_singleton.1 last
  | @template j p p' ts t applied =>
      have sets := (applyToTemplate_ok_iff.1 applied).sets_speaker
      dsimp only at sets
      rcases List.mem_append.1 member with before | last
      · have spoken := speaks i name description before
        by_cases same : i = j
        · subst same
          dsimp only
          rw [Function.update_self, sets.is]
          exact Option.or_eq_some_iff.2 (.inl spoken)
        · dsimp only
          rw [Function.update_of_ne same]
          exact spoken
      · obtain ⟨rfl, rfl⟩ : i = j ∧ c = .persona name description := by
          cases List.mem_singleton.1 last
          exact ⟨rfl, rfl⟩
        dsimp only
        rw [Function.update_self, sets.is]
        cases already : (ts i).persona with
        | none => rfl
        | some existing => exact congrArg some (sets.agrees name rfl existing already)

/-- **The personas are those that were told of**, and templates speak as they were told to. -/
theorem Runs.personas (run : Runs start done d) (empty : start.pipeline.personas = []) :
    d.pipeline.personas = described (told done) ∧ Speaks done d := by
  induction run with
  | nil => exact ⟨empty, fun _ _ _ member => nomatch member⟩
  | snoc _ applies ih =>
      obtain ⟨are, speaks⟩ := ih
      exact ⟨by rw [applies.personas, are, described_told_concat], applies.speaks speaks⟩

/-- **Telling again of a persona what it was told changes nothing**, neither in the pipeline nor in
a template. -/
theorem Runs.again (run : Runs start done d) (empty : start.pipeline.personas = [])
    {name : String} {description : Option String}
    (member : (site, .persona name description) ∈ done) :
    Applies (.persona name description) site d d := by
  obtain ⟨are, speaks⟩ := run.personas empty
  obtain ⟨p, ts⟩ := d
  have unique : (p.personas.map Persona.name).Nodup := by
    rw [are, map_name_described]
    exact nodup_eraseDups _
  have known : Directive.Persona.register name (description.getD "") p.personas = p.personas :=
    register_of_told unique (are ▸ described_told (mem_told member))
  cases site with
  | head =>
      have step := HeadStep.persona name description p
      rw [known] at step
      exact .head (applyToHead_ok_iff.2 step)
  | template i =>
      have spoken : (ts i).persona = some name := speaks i name description member
      have step := TemplateStep.persona description (d := ⟨ts i, p⟩) fun existing is =>
        Option.some.inj (is.symm.trans spoken)
      rw [known, ← spoken] at step
      have applies : Applies (.persona name description) (.template i) ⟨p, ts⟩
          ⟨p, Function.update ts i (ts i)⟩ := .template (applyToTemplate_ok_iff.2 step)
      rwa [Function.update_eq_self] at applies

end Desk

/-! ## What is told is kept -/

/-- **Descriptions of personas are merged without loss.**  After commands in any mix there is one
persona for each name that they mention, in the order in which the names come up; all that was
told of it stands in its description; the next command adds to descriptions at their end, if
anywhere; and a command that has told of a persona can be given again in its place and changes
nothing. -/
theorem personas_merged {ι : Type} [DecidableEq ι] {start d : Desk ι}
    {done : List (Site ι × Command)} (run : start.Runs done d)
    (empty : start.pipeline.personas = []) :
    (d.pipeline.personas.map Persona.name).Nodup
      ∧ d.pipeline.personas.map Persona.name = ((Desk.told done).map Prod.fst).eraseDups
      ∧ (∀ site name description, (site, .persona name description) ∈ done →
        ∃ q ∈ d.pipeline.personas, q.name = name
          ∧ (Text.trim (description.getD "")).toList <:+: q.description.toList)
      ∧ (∀ c site d', Desk.Applies c site d d' → Extends d.pipeline.personas d'.pipeline.personas)
      ∧ ∀ site name description, (site, .persona name description) ∈ done →
        Desk.Applies (.persona name description) site d d := by
  have are := (run.personas empty).1
  refine ⟨?_, ?_, fun site name description member => ?_, fun _ _ _ applies => applies.extends,
    fun _ _ _ member => run.again empty member⟩
  · rw [are, map_name_described]
    exact nodup_eraseDups _
  · rw [are, map_name_described]
  · rw [are]
    exact described_told (Desk.mem_told member)

/-- Jane is told of in the head, then in a template with a description that contains the first one,
and in another template by nothing but white space. -/
theorem personas_merged_jane :
    let blank : Template := Template.new "Step" "" "result"
    let start : Desk Bool := ⟨Pipeline.new "T", fun _ => blank⟩
    let done : List (Site Bool × Command) :=
      [(.head, .persona "Jane" (some "poet")), (.head, .persona "Joe" none),
        (.template true, .persona "Jane" (some " poet from Prague ")),
        (.template false, .persona "Jane" (some " "))]
    let d : Desk Bool :=
      { pipeline :=
          { title := "T"
            personas := [{ name := "Jane", description := "poet poet from Prague" },
              { name := "Joe" }] }
        templates := fun _ => { blank with persona := some "Jane" } }
    start.Runs done d ∧ start.pipeline.personas = []
      ∧ (d.pipeline.personas.map Persona.name).Nodup
      ∧ ∀ site name description, (site, .persona name description) ∈ done →
        Desk.Applies (.persona name description) site d d := by
  intro blank start done d
  have run : start.Runs done d := by
    have silent : ∀ existing, blank.persona = some existing → existing = "Jane" :=
      fun _ speaks => nomatch speaks
    let spoken : Template := { blank with persona := some "Jane" }
    let personas := register "Jane" " " (register "Jane" " poet from Prague "
      (register "Joe" "" (register "Jane" "poet" [])))
    let templates := Function.update (Function.update (fun _ => blank) true spoken) false spoken
    have ran : start.Runs done ⟨{ Pipeline.new "T" with personas := personas }, templates⟩ :=
      (Desk.Runs.nil : start.Runs [] start)
        |>.snoc (.head (applyToHead_ok_iff.2 (.persona "Jane" (some "poet") _)))
        |>.snoc (.head (applyToHead_ok_iff.2 (.persona "Joe" none _)))
        |>.snoc (.template (i := true) (applyToTemplate_ok_iff.2
          (.persona (some " poet from Prague ") silent)))
        |>.snoc (.template (i := false) (applyToTemplate_ok_iff.2
          (.persona (some " ") silent)))
    have merged : personas = d.pipeline.personas := by decide +kernel
    have speaking : templates = d.templates := by
      funext i
      cases i <;> rfl
    rw [merged, speaking] at ran
    exact ran
  obtain ⟨unique, -, -, -, again⟩ := personas_merged run rfl
  exact ⟨run, rfl, unique, again⟩

end PromptPipeline
