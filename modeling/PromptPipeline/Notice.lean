/-
# Notice -- what is worth telling about a run that goes on

Some commands are ignored without an error and some stages report that they
started.  Such notices are data: `Logged` is a result together with the notices
given on the way, and `value_bind` says that the notices never change the result.
-/
import PromptPipeline.Command.Vocabulary
import PromptPipeline.Text.Quoted

namespace PromptPipeline

set_option autoImplicit false

open Text (quoted)

/-- Something worth telling. -/
inductive Notice
  | alreadySet (command new existing : String)
  | defaultSet (key : ModelKey) (value existing : String)
  | headCodeBlock (line : Nat)
  | compilingHead (title : String)
  | compilingTemplate (title : String)
  | linking (templates : Nat)
  | unprepared (title : String)
  | loaded (path : String)
deriving Repr, DecidableEq

namespace Notice

/-- The wording of a notice. -/
def message : Notice → String
  | alreadySet command new existing =>
      "Ignoring " ++ command ++ " " ++ new ++ ", already set to " ++ existing
  | defaultSet key value existing =>
      "Ignoring MODEL " ++ key.word ++ " " ++ value ++ ", pipeline default is already " ++ existing
  | headCodeBlock line => "ignoring code block at line " ++ toString line ++ " in pipeline head"
  | compilingHead title => "compiling head of " ++ quoted title
  | compilingTemplate title => "compiling template " ++ quoted title
  | linking templates => "linking " ++ toString templates ++ " templates"
  | unprepared title => "unprepared pipeline " ++ quoted title
  | loaded path => "loaded pipeline from " ++ path

/-- Whether the notice only traces the stages of a run. -/
def isTrace : Notice → Bool
  | compilingHead _ | compilingTemplate _ | linking _ => true
  | _ => false

end Notice

/-- A result or an error, with the notices given before it. -/
structure Logged (ε α : Type) where
  notices : List Notice
  value : Except ε α
deriving Repr

namespace Logged

variable {ε ε' α β : Type}

/-- A result without notices. -/
def ok (a : α) : Logged ε α := ⟨[], .ok a⟩

/-- An error without notices. -/
def error (e : ε) : Logged ε α := ⟨[], .error e⟩

/-- A result or an error without notices. -/
def lift (v : Except ε α) : Logged ε α := ⟨[], v⟩

/-- A single notice. -/
def note (n : Notice) : Logged ε Unit := ⟨[n], .ok ()⟩

/-- First `x`, then, unless it is an error, what `f` makes of its result. -/
def bind (x : Logged ε α) (f : α → Logged ε β) : Logged ε β :=
  match x.value with
  | .ok a => ⟨x.notices ++ (f a).notices, (f a).value⟩
  | .error e => ⟨x.notices, .error e⟩

instance : Monad (Logged ε) where
  pure := ok
  bind := bind

/-- With another error. -/
def mapError (f : ε → ε') (x : Logged ε α) : Logged ε' α := ⟨x.notices, x.value.mapError f⟩

@[simp] theorem value_pure (a : α) : (pure a : Logged ε α).value = .ok a := rfl

@[simp] theorem value_ok (a : α) : (ok a : Logged ε α).value = .ok a := rfl

@[simp] theorem value_error (e : ε) : (error e : Logged ε α).value = .error e := rfl

@[simp] theorem value_lift (v : Except ε α) : (lift v).value = v := rfl

@[simp] theorem value_note (n : Notice) : (note n : Logged ε Unit).value = .ok () := rfl

/-- **Notices never change a result.** -/
@[simp] theorem value_bind (x : Logged ε α) (f : α → Logged ε β) :
    (x >>= f).value = x.value >>= fun a => (f a).value := by
  change (bind x f).value = _
  unfold bind
  cases x.value <;> rfl

@[simp] theorem value_mapError (f : ε → ε') (x : Logged ε α) :
    (x.mapError f).value = x.value.mapError f := rfl

end Logged

end PromptPipeline
