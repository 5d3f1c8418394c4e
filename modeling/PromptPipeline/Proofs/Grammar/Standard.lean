/-
# Proofs.Grammar.Standard -- the grammar of the language is its catalog

The catalog claims no keyword and no kind of command twice, so building the grammar
succeeds and every kind of command has its directive.
-/
import PromptPipeline.Grammar.Basic

namespace PromptPipeline.Grammar

set_option autoImplicit false

/-- The directive of each kind of command. -/
def owner : Command.Kind → Directive
  | .url => .url
  | .version => .version
  | .parameter => .parameter
  | .execute => .execute
  | .model => .model
  | .persona => .persona
  | .knowledge => .knowledge
  | .expectAmount | .expectFormat => .expect
  | .postprocess => .postprocess
  | .joker => .joker
  | .iterate => .iterate

theorem build_catalog_isOk : (build catalog).isOk = true := by decide +kernel

/-- A grammar has the directives that it is built from. -/
theorem directives_of_build {directives : List Directive} {g : Grammar}
    (built : build directives = .ok g) : g.directives = directives := by
  unfold build at built
  cases claimed : directives.foldlM Claims.addDirective {} with
  | error fault =>
      rw [claimed] at built
      cases built
  | ok claims =>
      rw [claimed] at built
      cases built
      rfl

theorem build_catalog : build catalog = .ok standard := by
  have isOk := build_catalog_isOk
  unfold standard standardWith
  unfold catalog at isOk ⊢
  generalize build (catalogWith Url.check) = built at isOk ⊢
  cases built with
  | ok g => rfl
  | error fault => cases isOk

theorem standard_directives : standard.directives = catalog := directives_of_build build_catalog

/-! ## Directives of commands -/

-- The grammar is a variable in what follows: a proof that unfolds `standard` builds it.

theorem directiveOf_of_directives {g : Grammar} (known : g.directives = catalog) (c : Command) :
    g.directiveOf c = .ok (owner c.kind) := by
  unfold directiveOf directiveFor?
  rw [known]
  cases c <;> rfl

theorem directiveOf_standard (c : Command) : standard.directiveOf c = .ok (owner c.kind) :=
  directiveOf_of_directives standard_directives c

variable {g : Grammar} {c : Command} {d : Directive}

theorem applyToHead_of_directiveOf {edit : Command → Edit Pipeline}
    (found : g.directiveOf c = .ok d) (hook : d.onHead = some edit) :
    g.applyToHead c = edit c := by
  funext p
  unfold applyToHead
  rw [found]
  simp only [hook]

theorem applyToHead_eq_refuse (found : g.directiveOf c = .ok d) (hook : d.onHead = none) :
    g.applyToHead c = refuse (.notAllowedHere d.name .head (g.lineOf c)) := by
  funext p
  unfold applyToHead
  rw [found]
  simp only [hook]

theorem applyToTemplate_of_directiveOf {edit : Command → Edit Draft}
    (found : g.directiveOf c = .ok d) (hook : d.onTemplate = some edit) :
    g.applyToTemplate c = edit c := by
  funext draft
  unfold applyToTemplate
  rw [found]
  simp only [hook]

theorem applyToTemplate_eq_refuse (found : g.directiveOf c = .ok d) (hook : d.onTemplate = none) :
    g.applyToTemplate c = refuse (.notAllowedHere d.name .template (g.lineOf c)) := by
  funext draft
  unfold applyToTemplate
  rw [found]
  simp only [hook]

/-- The edit of a head that a directive of the language makes. -/
theorem applyToHead_standard {edit : Command → Edit Pipeline}
    (hook : (owner c.kind).onHead = some edit) : standard.applyToHead c = edit c :=
  applyToHead_of_directiveOf (directiveOf_standard c) hook

/-- A head refuses a command whose directive has no edit of heads. -/
theorem applyToHead_standard_eq_refuse (hook : (owner c.kind).onHead = none) :
    standard.applyToHead c
      = refuse (.notAllowedHere (owner c.kind).name .head (standard.lineOf c)) :=
  applyToHead_eq_refuse (directiveOf_standard c) hook

theorem applyToHead_standard_none (hook : (owner c.kind).onHead = none) {p p' : Pipeline} :
    (standard.applyToHead c p).value ≠ .ok p' := by
  rw [applyToHead_standard_eq_refuse hook]
  exact fun h => nomatch h

/-- The edit of a template that a directive of the language makes. -/
theorem applyToTemplate_standard {edit : Command → Edit Draft}
    (hook : (owner c.kind).onTemplate = some edit) : standard.applyToTemplate c = edit c :=
  applyToTemplate_of_directiveOf (directiveOf_standard c) hook

/-- A template refuses a command whose directive has no edit of templates. -/
theorem applyToTemplate_standard_eq_refuse (hook : (owner c.kind).onTemplate = none) :
    standard.applyToTemplate c
      = refuse (.notAllowedHere (owner c.kind).name .template (standard.lineOf c)) :=
  applyToTemplate_eq_refuse (directiveOf_standard c) hook

theorem applyToTemplate_standard_none (hook : (owner c.kind).onTemplate = none)
    {draft draft' : Draft} : (standard.applyToTemplate c draft).value ≠ .ok draft' := by
  rw [applyToTemplate_standard_eq_refuse hook]
  exact fun h => nomatch h

end PromptPipeline.Grammar
