/-
# Name.Set -- finite sets of names

A set of names is shown in ascending order of code points, so it is kept that
way: the order is part of the type and two sets with the same members are equal.
-/

namespace PromptPipeline

set_option autoImplicit false

/-- Names in strictly ascending order. -/
structure NameSet where
  toList : List String
  ascending : toList.Pairwise (· < ·) := by exact List.Pairwise.nil
deriving DecidableEq

namespace NameSet

/-- Put a name in its place; a name that is there stays once. -/
def place (name : String) : List String → List String
  | [] => [name]
  | head :: rest =>
      if name < head then name :: head :: rest
      else if name = head then head :: rest
      else head :: place name rest

theorem mem_place {name x : String} {l : List String} :
    x ∈ place name l ↔ x = name ∨ x ∈ l := by
  induction l with
  | nil => simp [place]
  | cons head rest ih =>
      simp only [place]
      split
      · simp
      · split
        · rename_i same; subst same; simp
        · simp only [List.mem_cons, ih]
          constructor
          · rintro (h | h | h) <;> simp [h]
          · rintro (h | h | h) <;> simp [h]

theorem before_of_not_before {a b : String} (notBefore : ¬ a < b) (different : ¬ a = b) : b < a :=
  Decidable.byContradiction fun h =>
    different (String.le_antisymm (String.not_lt.1 h) (String.not_lt.1 notBefore))

theorem ascending_place (name : String) {l : List String} (sorted : l.Pairwise (· < ·)) :
    (place name l).Pairwise (· < ·) := by
  induction l with
  | nil => simp [place]
  | cons head rest ih =>
      obtain ⟨above, restSorted⟩ := List.pairwise_cons.1 sorted
      simp only [place]
      split
      · rename_i below
        refine List.pairwise_cons.2 ⟨fun x hx => ?_, sorted⟩
        rcases List.mem_cons.1 hx with rfl | hx
        · exact below
        · exact String.lt_trans below (above x hx)
      · split
        · exact sorted
        · rename_i notBelow different
          refine List.pairwise_cons.2 ⟨fun x hx => ?_, ih restSorted⟩
          rcases mem_place.1 hx with rfl | hx
          · exact before_of_not_before notBelow different
          · exact above x hx

theorem ascending_nil : ([] : List String).Pairwise (· < ·) := List.Pairwise.nil

/-- The set without members. -/
def empty : NameSet := ⟨[], ascending_nil⟩

instance : EmptyCollection NameSet := ⟨empty⟩
instance : Inhabited NameSet := ⟨empty⟩
instance : Membership String NameSet := ⟨fun s name => name ∈ s.toList⟩

instance (name : String) (s : NameSet) : Decidable (name ∈ s) :=
  inferInstanceAs (Decidable (name ∈ s.toList))

/-- The set with one more member. -/
def insert (name : String) (s : NameSet) : NameSet :=
  ⟨place name s.toList, ascending_place name s.ascending⟩

@[simp] theorem mem_insert {name x : String} {s : NameSet} :
    x ∈ s.insert name ↔ x = name ∨ x ∈ s := mem_place

/-- The members of a list. -/
def ofList (names : List String) : NameSet := names.foldr insert empty

@[simp] theorem mem_ofList {x : String} {names : List String} : x ∈ ofList names ↔ x ∈ names := by
  induction names with
  | nil => exact Iff.rfl
  | cons name rest ih =>
    simp only [ofList, List.foldr_cons, mem_insert, List.mem_cons] at ih ⊢
    rw [← ih]

/-- Whether a name is a member. -/
def contains (s : NameSet) (name : String) : Bool := decide (name ∈ s)

/-- The members that satisfy a test. -/
def filter (p : String → Bool) (s : NameSet) : NameSet :=
  ⟨s.toList.filter p, s.ascending.filter p⟩

end NameSet

end PromptPipeline
