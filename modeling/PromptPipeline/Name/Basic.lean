/-
# Name.Basic -- the names of parameters and templates

A parameter is written in many shapes (`{thing}`, a quoted `{thing}`, `<thing>`,
`my thing`) and has one name, in camel case.  A template is named by its title in
kebab case.

* `camelCase`: characters that are no letter or number separate words and are
  dropped; an upper-case letter after a lower-case one also starts a word, so a
  name in camel case stays as it is.
* `kebab`: the runs of letters and numbers in lower case, joined by hyphens.
* `validate`: takes one pair of each kind of bracket off and refuses names with
  dots, slashes or inner brackets, empty names and the reserved ones.
* `references`: the placeholders of a template body.
-/
import PromptPipeline.Text.Basic

namespace PromptPipeline.Name

set_option autoImplicit false

open Unicode

/-! ## Camel case -/

/-- The characters after the first letter of a name in camel case.  `boundary`
says that a separator came before, `afterLower` that the last letter was in lower
case or a number. -/
def camelRest (boundary afterLower : Bool) : List Char → List Char
  | [] => []
  | c :: rest =>
      if isAlphanumeric c then
        (if boundary || (isUppercase c && afterLower) then toUpper c else toLower c)
          ++ camelRest false (isLowercase c || isNumber c) rest
      else camelRest true afterLower rest

/-- A list of characters in camel case. -/
def camelChars : List Char → List Char
  | [] => []
  | c :: rest =>
      if isAlphanumeric c then
        toLower c ++ camelRest false (isLowercase c || isNumber c) rest
      else camelChars rest

/-- **The camel-case form of a text.** -/
def camelCase (text : String) : String := String.ofList (camelChars text.toList)

/-! ## Kebab case -/

/-- The characters after the first letter of a name in kebab case.  `pending` says
that a separator came after the last letter; its hyphen is written before the
next letter, so there is none at the end. -/
def kebabRest (pending : Bool) : List Char → List Char
  | [] => []
  | c :: rest =>
      if isAlphanumeric c then
        (if pending then ['-'] else []) ++ toLower c ++ kebabRest false rest
      else kebabRest true rest

/-- A list of characters in kebab case. -/
def kebabChars : List Char → List Char
  | [] => []
  | c :: rest =>
      if isAlphanumeric c then toLower c ++ kebabRest false rest else kebabChars rest

/-- **The kebab-case form of a title**, `Sample prompt` giving `sample-prompt`. -/
def kebab (title : String) : String := String.ofList (kebabChars title.toList)

/-! ## Reserved names -/

/-- Names that the executor fills in; a pipeline may refer to them and never
declares them. -/
def reserved : List String := ["context", "knowledge", "samples", "modelName", "currentDate"]

/-- Whether a name is reserved. -/
def isReserved (name : String) : Bool := reserved.contains name

/-! ## Validation -/

/-- Why a text is no parameter name. -/
inductive Problem
  | dots
  | slashes
  | brackets
  | empty
  | reserved (name : String)
deriving Repr, DecidableEq

/-- A text refused as a parameter name, as it was written. -/
structure Refusal where
  raw : String
  problem : Problem
deriving Repr, DecidableEq

/-- The wording of a problem. -/
def Problem.message : Problem → String
  | .dots => "cannot contain dots"
  | .slashes => "cannot contain slashes"
  | .brackets => "cannot contain braces"
  | .empty => "cannot be empty"
  | .reserved name => "\x7b" ++ name ++ "\x7d is a reserved parameter name"

/-- The wording of a refusal. -/
def Refusal.message (r : Refusal) : String :=
  "Invalid parameter name '" ++ r.raw ++ "': " ++ r.problem.message

/-- The pairs that may enclose a name, in the order in which they are taken off. -/
def enclosings : List (Char × Char) :=
  [('`', '`'), ('\x7b', '\x7d'), ('[', ']'), ('(', ')'), ('<', '>')]

/-- Without the pair, if the text starts with the one and ends with the other. -/
def unwrap (pair : Char × Char) : List Char → List Char
  | [] => []
  | c :: rest =>
      if c = pair.1 ∧ rest.getLast? = some pair.2 then rest.dropLast else c :: rest

/-- Whether a character is a bracket of any kind. -/
def isBracket (c : Char) : Bool := ['(', ')', '\x7b', '\x7d', '[', ']', '<', '>'].contains c

/-- **The canonical name that a text stands for**, or why there is none. -/
def validate (raw : String) : Except Refusal String :=
  let bare := enclosings.foldl (fun s pair => unwrap pair s) (Text.strip isBlank raw.toList)
  let name := String.ofList (camelChars bare)
  if bare.contains '.' then .error ⟨raw, .dots⟩
  else if bare.contains '/' || bare.contains '\\' then .error ⟨raw, .slashes⟩
  else if bare.any isBracket then .error ⟨raw, .brackets⟩
  else if name.isEmpty then .error ⟨raw, .empty⟩
  else if isReserved name then .error ⟨raw, .reserved name⟩
  else .ok name

/-! ## References -/

/-- The characters of a name inside a placeholder: ASCII letters, digits and the
underscore. -/
def isReferenceChar (c : Char) : Bool := c.isAlphanum || c == '_'

/-- One pass over a body.  `held` is the text since the last opening brace while
it can still become a placeholder. -/
def scanReferences (held : Option (List Char)) : List Char → List (List Char)
  | [] => []
  | c :: rest =>
      if c = '\x7b' then scanReferences (some []) rest
      else
        match held with
        | none => scanReferences none rest
        | some run =>
            if isReferenceChar c then scanReferences (some (run ++ [c])) rest
            else if c = '\x7d' ∧ run ≠ [] then run :: scanReferences none rest
            else scanReferences none rest

/-- The names between braces in a template body, in order and with repetitions. -/
def references (body : String) : List String :=
  (scanReferences none body.toList).map String.ofList

end PromptPipeline.Name
