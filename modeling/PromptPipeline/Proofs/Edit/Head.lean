/-
# Proofs.Edit.Head -- what the commands of a head come to

`headOf` is the pipeline that a list of commands describes, read off the list as a whole: the
first URL, version and requirement of each key, all declarations, and personas and sources in
the order in which they come up.  Commands that are applied one after the other come to just
that, and they can be applied exactly if `MakesHead` holds of the list
(`applyToHead_all_iff`).

The step (`headStep_headOf_iff`): a command succeeds after others exactly if it fits to them,
and it makes of what they describe what all of them describe.
-/
import PromptPipeline.Proofs.Edit.Coherent
import PromptPipeline.Proofs.Edit.Setting

namespace PromptPipeline

set_option autoImplicit false

open Directive

/-! ## In order of first mention -/

section

variable {α : Type} [BEq α] [LawfulBEq α] {l : List α} {a : α}

theorem eraseDups_concat_of_mem (member : a ∈ l) : (l ++ [a]).eraseDups = l.eraseDups := by
  rw [List.eraseDups_append]
  simp [List.removeAll, member]

theorem eraseDups_concat_of_not_mem (fresh : a ∉ l) :
    (l ++ [a]).eraseDups = l.eraseDups ++ [a] := by
  rw [List.eraseDups_append]
  simp [List.removeAll, fresh, List.eraseDups_cons]

theorem nodup_eraseDups (l : List α) : l.eraseDups.Nodup := by
  induction l using List.reverseRecOn with
  | nil => exact List.nodup_nil
  | append_singleton l a ih =>
      by_cases member : a ∈ l
      · rw [eraseDups_concat_of_mem member]
        exact ih
      · rw [eraseDups_concat_of_not_mem member, ← List.concat_eq_append]
        exact ih.concat fun there => member (List.mem_eraseDups.1 there)

end

/-! ## Personas -/

namespace Directive.Persona

/-- What is told of a persona. -/
def toldOf (told : List (String × String)) (name : String) : List String :=
  (told.filter (·.1 == name)).map Prod.snd

/-- The personas that are told of, in the order in which they come up, each with all that is
told of it. -/
def described (told : List (String × String)) : List PromptPipeline.Persona :=
  (told.map Prod.fst).eraseDups.map fun name =>
    { name := name, description := (toldOf told name).foldl merge "" }

/-- The first description is taken as it is, but for the white space around it. -/
theorem merge_nothing (addition : String) : merge "" addition = Text.trim addition := by
  unfold merge
  generalize Text.trim addition = added
  dsimp only
  split
  · rename_i nothing
    have empty : added.isEmpty = true := by
      simpa [Text.contains, Text.containsText] using nothing
    exact (String.isEmpty_iff.1 empty).symm
  · exact if_pos rfl

/-- A persona that is there gets one more description. -/
theorem register_of_mem {name description : String} {l : List PromptPipeline.Persona}
    (unique : (l.map PromptPipeline.Persona.name).Nodup) (known : ∃ q ∈ l, q.name = name) :
    register name description l
      = l.map fun q =>
        if q.name = name then { q with description := merge q.description description }
        else q := by
  obtain ⟨before, q, after, rfl, named, others⟩ := exists_split known
  rw [List.map_append, List.map_cons] at unique
  have behind : ∀ r ∈ after, r.name ≠ name := by
    intro r member same
    have fresh := (List.nodup_cons.1 (List.nodup_append.1 unique).2.1).1
    exact fresh (List.mem_map.2 ⟨r, member, same.trans named.symm⟩)
  have kept {rest : List PromptPipeline.Persona} (apart : ∀ r ∈ rest, r.name ≠ name) :
      (rest.map fun q =>
        if q.name = name then { q with description := merge q.description description } else q)
        = rest :=
    (List.map_congr_left fun r member => if_neg (apart r member)).trans rest.map_id
  rw [register_split description others named, List.map_append, List.map_cons, if_pos named,
    kept others, kept behind]

section

variable {told : List (String × String)} {name other : String}

theorem toldOf_concat (description : String) :
    toldOf (told ++ [(name, description)]) other
      = toldOf told other ++ if name = other then [description] else [] := by
  unfold toldOf
  by_cases same : name = other
  · simp [same]
  · simp [same]

/-- Nothing is told of a persona that does not come up. -/
theorem toldOf_of_not_mem (silent : name ∉ told.map Prod.fst) : toldOf told name = [] := by
  refine List.map_eq_nil_iff.2 (List.filter_eq_nil_iff.2 fun x member same => silent ?_)
  exact List.mem_map.2 ⟨x, member, by simpa using same⟩

theorem map_name_described :
    (described told).map PromptPipeline.Persona.name = (told.map Prod.fst).eraseDups := by
  unfold described
  rw [List.map_map]
  exact List.map_id _

theorem exists_described_iff :
    (∃ q ∈ described told, q.name = name) ↔ name ∈ told.map Prod.fst := by
  rw [← List.mem_map, map_name_described, List.mem_eraseDups]

/-- **Telling of one more persona registers it.** -/
theorem described_concat (description : String) :
    described (told ++ [(name, description)]) = register name description (described told) := by
  by_cases known : name ∈ told.map Prod.fst
  · have unique : ((described told).map PromptPipeline.Persona.name).Nodup :=
      map_name_described ▸ nodup_eraseDups _
    rw [register_of_mem unique (exists_described_iff.2 known)]
    unfold described
    rw [List.map_append, List.map_singleton, eraseDups_concat_of_mem known, List.map_map]
    refine List.map_congr_left fun other _ => ?_
    dsimp only [Function.comp]
    rw [toldOf_concat]
    by_cases same : other = name
    · rw [if_pos same, if_pos same.symm, List.foldl_append, List.foldl_cons, List.foldl_nil]
    · rw [if_neg same, if_neg (Ne.symm same), List.append_nil]
  · have free : ∀ q ∈ described told, q.name ≠ name := fun q member same =>
      known (exists_described_iff.1 ⟨q, member, same⟩)
    rw [register_of_not_mem free]
    unfold described
    rw [List.map_append, List.map_singleton, eraseDups_concat_of_not_mem known, List.map_append]
    congr 1
    · refine List.map_congr_left fun other member => ?_
      have differs : name ≠ other := fun same => known (same ▸ List.mem_eraseDups.1 member)
      rw [toldOf_concat, if_neg differs, List.append_nil]
    · rw [List.map_singleton, toldOf_concat, if_pos rfl, toldOf_of_not_mem known, List.nil_append,
        List.foldl_cons, List.foldl_nil, merge_nothing]

end

end Directive.Persona

/-! ## Sources -/

namespace Directive.Knowledge

/-- The sources that are named, in the order in which they come up, each under its name. -/
def listed (sources : List String) : List KnowledgeSource :=
  sources.eraseDups.map fun source => { name := sourceName source, content := source }

theorem mem_listed {sources : List String} {s : KnowledgeSource} :
    s ∈ listed sources
      ↔ ∃ source ∈ sources, { name := sourceName source, content := source } = s := by
  unfold listed
  simp only [List.mem_map, List.mem_eraseDups]

section

variable {p p' : Pipeline} {sources : List String} {source : String}

theorem listed_concat_of_mem (known : source ∈ sources) :
    listed (sources ++ [source]) = listed sources := by
  unfold listed
  rw [eraseDups_concat_of_mem known]

theorem listed_concat_of_not_mem (new : source ∉ sources) :
    listed (sources ++ [source])
      = listed sources ++ [{ name := sourceName source, content := source }] := by
  unfold listed
  rw [eraseDups_concat_of_not_mem new, List.map_append, List.map_singleton]

/-- The name of a source finds it, if no other one has it. -/
theorem source?_of_listed (is : p.knowledge = listed sources) (known : source ∈ sources)
    (alone : ∀ other ∈ sources, sourceName other = sourceName source → other = source) :
    ∃ s, p.source? (sourceName source) = some s ∧ s.content = source := by
  cases found : p.source? (sourceName source) with
  | none =>
      have member : { name := sourceName source, content := source } ∈ p.knowledge :=
        is ▸ mem_listed.2 ⟨source, known, rfl⟩
      exact absurd rfl (source?_eq_none_iff.1 found _ member)
  | some s =>
      obtain ⟨member, named⟩ := mem_of_source?_eq_some found
      obtain ⟨other, inside, rfl⟩ := mem_listed.1 (is ▸ member)
      exact ⟨_, rfl, alone other inside named⟩

/-- The name of a source that is not there is free, if no other one has it. -/
theorem source?_eq_none_iff_alone (is : p.knowledge = listed sources) (new : source ∉ sources) :
    p.source? (sourceName source) = none
      ↔ ∀ other ∈ sources, sourceName other = sourceName source → other = source := by
  rw [source?_eq_none_iff, is]
  constructor
  · intro free other member named
    exact absurd named (free _ (mem_listed.2 ⟨other, member, rfl⟩))
  · intro alone s member named
    obtain ⟨other, inside, rfl⟩ := mem_listed.1 member
    exact new (alone other inside named ▸ inside)

/-- **One more source is registered if no other one has its name.** -/
theorem register_listed_iff (is : p.knowledge = listed sources)
    (apart : ∀ a ∈ sources, ∀ b ∈ sources, sourceName a = sourceName b → a = b) :
    register source p = .ok p'
      ↔ (∀ other ∈ sources, sourceName other = sourceName source → other = source)
        ∧ { p with knowledge := listed (sources ++ [source]) } = p' := by
  rw [register_ok_iff]
  by_cases known : source ∈ sources
  · have alone := fun other member => apart other member source known
    obtain ⟨s, found, content⟩ := source?_of_listed is known alone
    rw [listed_concat_of_mem known, ← is]
    constructor
    · rintro (⟨_, -, -, rfl⟩ | ⟨missing, -⟩)
      · exact ⟨alone, rfl⟩
      · rw [missing] at found
        cases found
    · rintro ⟨-, rfl⟩
      exact .inl ⟨s, found, content, rfl⟩
  · rw [listed_concat_of_not_mem known, ← is, ← source?_eq_none_iff_alone is known, or_iff_right]
    rintro ⟨s, found, content, -⟩
    obtain ⟨member, -⟩ := mem_of_source?_eq_some found
    obtain ⟨other, inside, rfl⟩ := mem_listed.1 (is ▸ member)
    exact known (content ▸ inside)

end

end Directive.Knowledge

/-! ## Heads -/

/-- **The pipeline that the commands of a head describe.** -/
def headOf (title : String) (description : Option String) (cs : List Command) : Pipeline where
  title := title
  description := description
  url := cs.findSome? Command.url?
  version := cs.findSome? Command.version?
  parameters := cs.filterMap Command.declared?
  defaults := requirementsOf cs
  personas := Persona.described (cs.filterMap Command.persona?)
  knowledge := Knowledge.listed (cs.filterMap Command.source?)

/-- The kinds of command that a head takes. -/
def headKinds : List Command.Kind := [.url, .version, .parameter, .model, .persona, .knowledge]

/-- Commands that make a head: they are commands of heads, require variants that there are,
declare different names and name no two sources of one name. -/
structure MakesHead (cs : List Command) : Prop where
  kinds : ∀ c ∈ cs, c.kind ∈ headKinds
  variants : ∀ value, .model .variant value ∈ cs →
    ∃ variant, ModelVariant.ofKeyword? value = some variant
  parameters : ((cs.filterMap Command.declared?).map Parameter.name).Nodup
  sources : ∀ a ∈ cs.filterMap Command.source?, ∀ b ∈ cs.filterMap Command.source?,
    Knowledge.sourceName a = Knowledge.sourceName b → a = b

/-- What a command needs of those before it to go on with a head. -/
structure Command.Fits (cs : List Command) (c : Command) : Prop where
  kind : c.kind ∈ headKinds
  variant : ∀ value, .model .variant value = c →
    ∃ variant, ModelVariant.ofKeyword? value = some variant
  parameter : ∀ q ∈ c.declared?, ∀ other ∈ cs.filterMap Command.declared?, other.name ≠ q.name
  source : ∀ source ∈ c.source?, ∀ other ∈ cs.filterMap Command.source?,
    Knowledge.sourceName other = Knowledge.sourceName source → other = source

section

variable {title : String} {description : Option String} {cs : List Command} {c : Command}
  {p : Pipeline}

/-! ## One more command -/

theorem makesHead_nil : MakesHead [] where
  kinds := fun _ h => nomatch h
  variants := fun _ h => nomatch h
  parameters := List.nodup_nil
  sources := fun _ h => nomatch h

/-- **Commands make a head with one more that fits to them.** -/
theorem makesHead_concat_iff : MakesHead (cs ++ [c]) ↔ MakesHead cs ∧ c.Fits cs := by
  have apart : (∀ a ∈ (cs ++ [c]).filterMap Command.source?,
        ∀ b ∈ (cs ++ [c]).filterMap Command.source?,
          Knowledge.sourceName a = Knowledge.sourceName b → a = b)
      ↔ (∀ a ∈ cs.filterMap Command.source?, ∀ b ∈ cs.filterMap Command.source?,
          Knowledge.sourceName a = Knowledge.sourceName b → a = b)
        ∧ ∀ b ∈ c.source?, ∀ a ∈ cs.filterMap Command.source?,
          Knowledge.sourceName a = Knowledge.sourceName b → a = b := by
    rw [filterMap_concat]
    exact related_concat_iff (fun _ _ => rfl) fun _ _ same named => (same named.symm).symm
  constructor
  · rintro ⟨kinds, variants, parameters, sources⟩
    obtain ⟨kinds, kind⟩ := List.forall_mem_append.1 kinds
    rw [filterMap_concat, List.map_append, List.nodup_append] at parameters
    obtain ⟨sources, source⟩ := apart.1 sources
    refine ⟨⟨kinds, fun value member => variants value (List.mem_append_left _ member),
      parameters.1, sources⟩, kind c List.mem_cons_self, ?_, ?_, source⟩
    · rintro value rfl
      exact variants value (List.mem_append_right _ List.mem_cons_self)
    · intro q here other member
      exact parameters.2.2 _ (List.mem_map_of_mem member) _
        (List.mem_map_of_mem (Option.mem_toList.2 here))
  · rintro ⟨makes, fits⟩
    refine ⟨?_, ?_, ?_, apart.2 ⟨makes.sources, fits.source⟩⟩
    · exact List.forall_mem_append.2 ⟨makes.kinds, List.forall_mem_singleton.2 fits.kind⟩
    · intro value member
      rcases List.mem_append.1 member with before | last
      · exact makes.variants value before
      · exact fits.variant value (List.mem_singleton.1 last)
    · rw [filterMap_concat, List.map_append, List.nodup_append]
      refine ⟨makes.parameters, ?_, ?_⟩
      · cases c.declared? <;> simp
      · intro name member other last same
        obtain ⟨q, hq, rfl⟩ := List.mem_map.1 member
        obtain ⟨q', hq', rfl⟩ := List.mem_map.1 last
        exact fits.parameter q' (Option.mem_toList.1 hq') q hq same

theorem headOf_nil :
    headOf title description [] = { Pipeline.new title with description := description } := rfl

/-- A command that requires nothing changes no requirements. -/
theorem requirementsOf_concat (noVariant : c.variant? = none) (noName : c.modelName? = none) :
    requirementsOf (cs ++ [c]) = requirementsOf cs := by
  unfold requirementsOf
  rw [findSome?_concat, findSome?_concat, noVariant, noName, Option.or_none, Option.or_none]

/-- A command that requires something adds it, if it is not required already. -/
theorem requirementsOf_concat_of_asks
    (asks : c.variant?.isSome = true ∨ c.modelName?.isSome = true) :
    requirementsOf (cs ++ [c])
      = some {
          variant := (cs.findSome? Command.variant?).or c.variant?
          name := (cs.findSome? Command.modelName?).or c.modelName? } := by
  unfold requirementsOf
  rw [findSome?_concat, findSome?_concat]
  refine if_neg fun blank => ?_
  obtain ⟨noVariant, noName⟩ := ModelRequirements.mk.inj blank
  rcases asks with asks | asks
  · rw [(Option.or_eq_none_iff.1 noVariant).2] at asks
    cases asks
  · rw [(Option.or_eq_none_iff.1 noName).2] at asks
    cases asks

theorem headOf_concat :
    headOf title description (cs ++ [c])
      = { headOf title description cs with
          url := (cs.findSome? Command.url?).or c.url?
          version := (cs.findSome? Command.version?).or c.version?
          parameters := cs.filterMap Command.declared? ++ c.declared?.toList
          defaults := requirementsOf (cs ++ [c])
          personas := Persona.described (cs.filterMap Command.persona? ++ c.persona?.toList)
          knowledge := Knowledge.listed (cs.filterMap Command.source? ++ c.source?.toList) } := by
  unfold headOf
  rw [findSome?_concat, findSome?_concat, filterMap_concat, filterMap_concat, filterMap_concat]

/-- A requirement that fits is added to those before it. -/
theorem modelStep_headOf {key : ModelKey} {value : String}
    (fits : (Command.model key value).Fits cs) :
    HeadStep (.model key value) (headOf title description cs)
      { headOf title description cs with
        defaults := requirementsOf (cs ++ [.model key value]) } := by
  have before : (headOf title description cs).defaults.getD {}
      = { variant := cs.findSome? Command.variant?, name := cs.findSome? Command.modelName? } :=
    unlessBlank_getD
  cases key with
  | variant =>
      obtain ⟨variant, known⟩ := fits.variant value rfl
      have asks : (Command.model .variant value).variant? = some variant := known
      have step := HeadStep.modelVariant (headOf title description cs) known
      rw [before] at step
      rw [requirementsOf_concat_of_asks (.inl (by rw [asks]; rfl)), asks]
      simpa only [Command.modelName?, Option.or_none] using step
  | name =>
      have step := HeadStep.modelName value (headOf title description cs)
      rw [before] at step
      rw [requirementsOf_concat_of_asks (.inr rfl)]
      simpa only [Command.variant?, Command.modelName?, Option.or_none] using step

/-- A command that fits to those before it makes of what they describe what all of them
describe. -/
theorem headStep_headOf (makes : MakesHead cs) (fits : c.Fits cs) :
    HeadStep c (headOf title description cs) (headOf title description (cs ++ [c])) := by
  rw [headOf_concat]
  cases c <;> simp only [Command.url?, Command.version?, Command.declared?, Command.persona?,
    Command.source?, Option.or_none, Option.toList_none, List.append_nil]
  case url url =>
      rw [requirementsOf_concat rfl rfl]
      exact .url url _
  case version version =>
      rw [requirementsOf_concat rfl rfl]
      exact .version version _
  case parameter name told isInput isOutput =>
      rw [requirementsOf_concat rfl rfl]
      exact .parameter told isInput isOutput (fits.parameter _ rfl)
  case model key value => exact modelStep_headOf fits
  case persona name told =>
      rw [requirementsOf_concat rfl rfl, Option.toList_some, Persona.described_concat]
      exact .persona name told _
  case knowledge source =>
      rw [requirementsOf_concat rfl rfl]
      exact .knowledge ((Knowledge.register_listed_iff rfl makes.sources).2
        ⟨fits.source source rfl, rfl⟩)
  all_goals
    have foreign := fits.kind
    simp [headKinds, Command.kind] at foreign

/-- A command that succeeds after others fits to them. -/
theorem HeadStep.fits (makes : MakesHead cs) (step : HeadStep c (headOf title description cs) p) :
    c.Fits cs := by
  have kind : c.kind ∈ headKinds := by
    cases step <;> simp [headKinds, Command.kind]
  have variant : ∀ value, .model .variant value = c →
      ∃ variant, ModelVariant.ofKeyword? value = some variant := by
    rintro value rfl
    cases step with
    | modelVariant _ known => exact ⟨_, known⟩
  refine ⟨kind, variant, ?_, ?_⟩
  · intro q declares other member
    cases step with
    | parameter _ _ _ free =>
        cases declares
        exact free other member
    | url | version | modelVariant | modelName | persona | knowledge => cases declares
  · intro source names
    cases step with
    | knowledge registered =>
        cases names
        exact ((Knowledge.register_listed_iff rfl makes.sources).1 registered).1
    | url | version | modelVariant | modelName | persona | parameter => cases names

/-- **One more command goes on with the head that those before it describe.** -/
theorem headStep_headOf_iff (makes : MakesHead cs) :
    HeadStep c (headOf title description cs) p
      ↔ c.Fits cs ∧ p = headOf title description (cs ++ [c]) := by
  constructor
  · intro step
    have fits := step.fits makes
    exact ⟨fits, step.unique (headStep_headOf makes fits)⟩
  · rintro ⟨fits, rfl⟩
    exact headStep_headOf makes fits

end

/-! ## All commands -/

/-- **What the commands of a head come to.**  Commands can be applied to an empty pipeline one
after the other exactly if they make a head, and then they come to the pipeline that they
describe. -/
theorem applyToHead_all_iff (title : String) (description : Option String) (cs : List Command)
    (p : Pipeline) :
    (cs.foldlM (fun p c => Grammar.standard.applyToHead c p)
        { Pipeline.new title with description := description }).value = .ok p
      ↔ MakesHead cs ∧ p = headOf title description cs := by
  rw [foldlM_applyToHead_ok_iff]
  induction cs using List.reverseRecOn generalizing p with
  | nil =>
      rw [headOf_nil]
      constructor
      · intro run
        cases run
        exact ⟨makesHead_nil, rfl⟩
      · rintro ⟨-, rfl⟩
        exact .nil _
  | append_singleton cs c ih =>
      rw [Steps.concat_iff, makesHead_concat_iff]
      constructor
      · rintro ⟨m, run, last⟩
        obtain ⟨makes, rfl⟩ := (ih m).1 run
        obtain ⟨fits, rfl⟩ := (headStep_headOf_iff makes).1 last
        exact ⟨⟨makes, fits⟩, rfl⟩
      · rintro ⟨⟨makes, fits⟩, rfl⟩
        exact ⟨_, (ih _).2 ⟨makes, rfl⟩, (headStep_headOf_iff makes).2 ⟨fits, rfl⟩⟩

-- Of two URLs the first counts, and a persona that comes up again is not a second one.
example :
    let p := headOf "T" none
      [.url "a", .persona "Jane" none, .url "b", .persona "Joe" none, .persona "Jane" none]
    p.url = some "a" ∧ p.personas.map Persona.name = ["Jane", "Joe"] := by decide

end PromptPipeline
