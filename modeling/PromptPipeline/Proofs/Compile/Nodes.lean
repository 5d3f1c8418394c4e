/-
# Proofs.Compile.Nodes -- the nodes of a flowchart

The templates of a pipeline that compiles have distinct names in kebab case, and the node of a
template is its name in camel case behind `template`.  So no template takes the node of the input
or of the output, and two templates share a node exactly if the words of their names, each with a
capital first, make the same text (`node_eq_iff`).

They do if their names only differ in hyphens that are not in front of a letter with a capital, as
the names of `A1` and `A 1` do (`node_shared`).  Of names in ASCII no others do.
-/
import PromptPipeline.Flowchart
import PromptPipeline.Proofs.Compile.RoundTrip
import PromptPipeline.Proofs.Name.Recased
import PromptPipeline.Proofs.Validation.Executable

namespace PromptPipeline

set_option autoImplicit false

namespace Flowchart

open Name

variable {t u : Template}

/-! ## One node -/

theorem toList_node (named : t.name = kebab t.title) :
    (node t).toList = "template".toList ++ camelRest true true t.name.toList := by
  rw [node, ← named, camelCase, String.toList_ofList, String.toList_append]
  rfl

theorem isKebab_name (named : t.name = kebab t.title) : IsKebab t.name.toList :=
  named ▸ isKebab_kebab t.title

/-- **No template is the input or the output.** -/
theorem node_ne_ends (named : t.name = kebab t.title) : node t ≠ "input" ∧ node t ≠ "output" := by
  have begins : (node t).toList.head? = some 't' := by
    rw [toList_node named]
    rfl
  constructor <;>
  · intro same
    rw [same] at begins
    exact absurd begins (by decide)

theorem node_eq_iff_rest (named : t.name = kebab t.title) (named' : u.name = kebab u.title) :
    node t = node u
      ↔ camelRest true true t.name.toList = camelRest true true u.name.toList := by
  rw [← String.toList_inj, toList_node named, toList_node named', List.append_cancel_left_eq]

/-- **When two templates share a node.** -/
theorem node_eq_iff (named : t.name = kebab t.title) (named' : u.name = kebab u.title) :
    (node t = node u ↔ spelled t.name.toList = spelled u.name.toList)
      ∧ (IsReversible t.name.toList → IsReversible u.name.toList →
        (node t = node u ↔ closed ('-' :: t.name.toList) = closed ('-' :: u.name.toList))) := by
  have small := (isKebab_name named).small
  have small' := (isKebab_name named').small
  refine ⟨?_, fun reversible reversible' => ?_⟩
  · rw [node_eq_iff_rest named named', camelRest_spelled small, camelRest_spelled small']
  · rw [node_eq_iff_rest named named', camelRest_eq_iff small small' reversible reversible']

/-- Separated names have nodes of their own. -/
theorem name_eq_of_node_eq (named : t.name = kebab t.title) (named' : u.name = kebab u.title)
    (reversible : IsReversible t.name.toList) (reversible' : IsReversible u.name.toList)
    (separated : IsSeparated t.name.toList) (separated' : IsSeparated u.name.toList)
    (same : node t = node u) : t.name = u.name := by
  have shown := ((node_eq_iff named named').2 reversible reversible').1 same
  exact String.toList_inj.1
    (closed_injective (isKebab_name named) (isKebab_name named') separated separated' shown)

/-! ## The nodes of a pipeline -/

theorem named_of_compile {options : CompileOptions} {source : String} {p : Pipeline}
    (compiled : (compile options source).value = .ok p) :
    ∀ t ∈ p.templates, t.name = kebab t.title :=
  fun t member => ((established_compile compiled).templates t member).coherent.named

/-- **Which templates share a node.**  In a pipeline that compiles, no template has the node of the
input or the output, and two templates share a node exactly if their names are spelled the same
with capitals for hyphens.  If each letter is the lower case of its capital, as in ASCII, this is
so exactly if the names are the same without the hyphens that are not in front of a letter with
a capital; so if there are no such hyphens, every template has a node of its own. -/
theorem nodes_of_compile {source : String} {p : Pipeline}
    (compiled : (compile {} source).value = .ok p) :
    (∀ t ∈ p.templates, node t ≠ "input" ∧ node t ≠ "output")
      ∧ (∀ t ∈ p.templates, ∀ u ∈ p.templates,
        (node t = node u ↔ spelled t.name.toList = spelled u.name.toList)
          ∧ (IsReversible t.name.toList → IsReversible u.name.toList →
            (node t = node u
              ↔ closed ('-' :: t.name.toList) = closed ('-' :: u.name.toList))))
      ∧ (∀ t ∈ p.templates, (∀ c ∈ t.title.toList, c.toNat < 128) → IsReversible t.name.toList)
      ∧ ((∀ t ∈ p.templates, IsReversible t.name.toList ∧ IsSeparated t.name.toList) →
        ("input" :: "output" :: p.templates.map node).Nodup) := by
  have named := named_of_compile compiled
  refine ⟨fun t member => node_ne_ends (named t member),
    fun t member u member' => node_eq_iff (named t member) (named u member'),
    fun t member ascii => ?_, fun clear => ?_⟩
  · rw [named t member]
    exact isReversible_kebab_of_ascii ascii
  · have executable := Validation.violations_eq_nil_iff.1
      (Validation.validate_eq_ok_iff_violations.1 (validate_of_compile compiled rfl))
    have unique : (p.templates.map node).Nodup := by
      refine List.Nodup.map_on (fun t member u member' same => ?_)
        (List.Nodup.of_map _ executable.templatesDistinct)
      obtain ⟨reversible, separated⟩ := clear t member
      obtain ⟨reversible', separated'⟩ := clear u member'
      exact List.inj_on_of_nodup_map executable.templatesDistinct member member'
        (name_eq_of_node_eq (named t member) (named u member') reversible reversible' separated
          separated' same)
    refine List.nodup_cons.2 ⟨fun input => ?_, List.nodup_cons.2 ⟨fun output => ?_, unique⟩⟩
    · rcases List.mem_cons.1 input with both | here
      · exact absurd both (by decide)
      · obtain ⟨t, member, same⟩ := List.mem_map.1 here
        exact (node_ne_ends (named t member)).1 same
    · obtain ⟨t, member, same⟩ := List.mem_map.1 output
      exact (node_ne_ends (named t member)).2 same

/-- Names that begin with a letter and with a digit, the hyphens in front of letters. -/
theorem nodes_of_compile_drafts :
    let source := "# T\n\n## First draft\n\n```\nHi\n```\n\n-> {r}\n\n"
      ++ "## 2nd draft\n\n```\n{r}\n```\n\n-> {s}\n"
    let t : Template := Template.new "First draft" "Hi" "r"
    let u : Template := { Template.new "2nd draft" "{r}" "s" with dependents := .ofList ["r"] }
    let p : Pipeline :=
      { title := "T"
        parameters := [⟨"r", none, false, false⟩, ⟨"s", none, false, true⟩]
        templates := [t, u] }
    (compile {} source).value = .ok p
      ∧ (∀ t ∈ p.templates, ∀ c ∈ t.title.toList, c.toNat < 128)
      ∧ (∀ t ∈ p.templates, IsReversible t.name.toList ∧ IsSeparated t.name.toList)
      ∧ ("input" :: "output" :: p.templates.map node).Nodup := by
  intro source t u p
  have compiled : (compile {} source).value = .ok p := by decide +kernel
  have ascii : ∀ t ∈ p.templates, ∀ c ∈ t.title.toList, c.toNat < 128 := by decide +kernel
  have separated : ∀ t ∈ p.templates, IsSeparated t.name.toList := by decide +kernel
  obtain ⟨-, -, reversible, own⟩ := nodes_of_compile compiled
  have clear : ∀ t ∈ p.templates, IsReversible t.name.toList ∧ IsSeparated t.name.toList :=
    fun t member => ⟨reversible t member (ascii t member), separated t member⟩
  exact ⟨compiled, ascii, clear, own clear⟩

/-- **A hyphen in front of a digit is lost**: the templates `A1` and `A 1` have different names
and one node, so the edge from the one to the other leads from the node to itself. -/
theorem node_shared :
    ¬∀ (source : String) (p : Pipeline), (compile {} source).value = .ok p →
      (p.templates.map node).Nodup := by
  intro always
  let source := "# T\n\n## A1\n\n```\nx\n```\n\n-> {r}\n\n## A 1\n\n```\n{r}\n```\n\n-> {s}\n"
  let t : Template := Template.new "A1" "x" "r"
  let u : Template := { Template.new "A 1" "{r}" "s" with dependents := .ofList ["r"] }
  let p : Pipeline :=
    { title := "T"
      parameters := [⟨"r", none, false, false⟩, ⟨"s", none, false, true⟩]
      templates := [t, u] }
  have compiled : (compile {} source).value = .ok p := by decide +kernel
  have shared : p.templates.map node = ["templateA1", "templateA1"] := by decide +kernel
  have unique := always source p compiled
  rw [shared] at unique
  exact absurd unique (by decide)

end Flowchart

end PromptPipeline
