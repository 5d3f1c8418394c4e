/-
# Collection.Basic -- pipelines by their URLs

A collection holds valid pipelines, each under its own URL, in ascending order of the
URLs; the order is part of the type.
-/
import PromptPipeline.Compile.Basic

namespace PromptPipeline

set_option autoImplicit false

/-- Pipelines in strictly ascending order of their URLs. -/
structure Collection where
  members : List (String × Pipeline)
  ascending : (members.map Prod.fst).Pairwise (· < ·) := by exact List.Pairwise.nil

namespace Collection

/-! ## Members -/

/-- The collection without pipelines. -/
def empty : Collection := ⟨[], NameSet.ascending_nil⟩

instance : EmptyCollection Collection := ⟨empty⟩
instance : Inhabited Collection := ⟨empty⟩

/-- The URLs in ascending order. -/
def urls (c : Collection) : List String := c.members.map Prod.fst

/-- How many pipelines there are. -/
def size (c : Collection) : Nat := c.members.length

/-- The pipeline under a URL. -/
def get? (c : Collection) (url : String) : Option Pipeline := c.members.lookup url

/-- The pipeline under a URL, or the error that there is none. -/
def get (c : Collection) (url : String) : Except CompileError Pipeline :=
  match c.get? url with
  | some p => .ok p
  | none => .error (.collection none (.notFound url c.urls))

/-- Put a pipeline in its place; a URL that is there keeps its pipeline. -/
def place (url : String) (p : Pipeline) : List (String × Pipeline) → List (String × Pipeline)
  | [] => [(url, p)]
  | head :: rest =>
      if url < head.1 then (url, p) :: head :: rest
      else if url = head.1 then head :: rest
      else head :: place url p rest

theorem fst_place (url : String) (p : Pipeline) (l : List (String × Pipeline)) :
    (place url p l).map Prod.fst = NameSet.place url (l.map Prod.fst) := by
  induction l with
  | nil => rfl
  | cons head rest ih =>
      simp only [place, NameSet.place, List.map_cons]
      split
      · rfl
      · split
        · rfl
        · simp [ih]

/-- With one more pipeline under a URL. -/
def add (c : Collection) (url : String) (p : Pipeline) : Collection :=
  ⟨place url p c.members, by rw [fst_place]; exact NameSet.ascending_place url c.ascending⟩

/-! ## Building -/

/-- **With one more pipeline**, which has to be valid and to have a URL of its own. -/
def insert (c : Collection) (p : Pipeline) : Except CompileError Collection :=
  match p.url with
  | none => .error (.collection none (.noUrl p.title))
  | some url =>
      match Validation.validate p with
      | .error violations => .error (.invalid violations)
      | .ok () =>
          if (c.get? url).isSome then .error (.collection none (.urlTwice url))
          else .ok (c.add url p)

/-- **The collection of some pipelines.** -/
def ofPipelines (pipelines : List Pipeline) : Except CompileError Collection :=
  pipelines.foldlM insert empty

/-- The collection of some sources, all of which are compiled first. -/
def ofSources (options : CompileOptions) (sources : List String) :
    Logged CompileError Collection := do
  let pipelines ← sources.mapM (compile options)
  Logged.lift (ofPipelines pipelines)

end Collection

end PromptPipeline
