/-
# Proofs.Name.Set -- sets of names are their members

The order of a set of names is settled by its members, so sets with the same members are
equal (`NameSet.ext`).
-/
import PromptPipeline.Name.Set
import Mathlib.Data.List.Sort

namespace PromptPipeline.NameSet

set_option autoImplicit false

/-- **Sets with the same members are equal.** -/
theorem ext {s s' : NameSet} (same : ∀ name, name ∈ s ↔ name ∈ s') : s = s' := by
  have irreflexive : Std.Irrefl fun a b : String => a < b := ⟨String.lt_irrefl⟩
  have antisymmetric : Std.Antisymm fun a b : String => a < b :=
    ⟨fun a b before after => absurd (String.lt_trans before after) (String.lt_irrefl a)⟩
  have lists : s.toList = s'.toList := s.ascending.eq_of_mem_iff s'.ascending same
  cases s
  cases s'
  cases lists
  rfl

theorem mem_filter {s : NameSet} {test : String → Bool} {name : String} :
    name ∈ s.filter test ↔ name ∈ s ∧ test name = true := List.mem_filter

theorem nodup_toList (s : NameSet) : s.toList.Nodup := by
  refine s.ascending.imp ?_
  rintro name _ before rfl
  exact String.lt_irrefl name before

/-- The set of the names of a set is this set. -/
theorem ofList_toList (s : NameSet) : ofList s.toList = s := ext fun _ => mem_ofList

end PromptPipeline.NameSet
