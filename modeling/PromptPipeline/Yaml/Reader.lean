/-
# Yaml.Reader -- YAML documents from tokens

A node may have a name and a tag in front of it.  The items of a block are told by
dashes and its members by keys and values; a part that is left out is absent.  Every
function takes fuel: a node and an entry of a collection take some, and each but one
of them takes a token.
-/
import PromptPipeline.Yaml.Token

namespace PromptPipeline.Yaml

set_option autoImplicit false

/-! ## Properties -/

/-- What the handles of tags stand for. -/
abbrev Handles := List (List Char × List Char)

/-- What stands in front of a node. -/
structure Properties where
  name : Option (List Char) := none
  tag : Option (List Char) := none
deriving Repr, DecidableEq

/-- With the name that a node has been given. -/
def Properties.apply (p : Properties) (node : Yaml) : Yaml :=
  match p.name with
  | some name => .named name node
  | none => node

/-- A tag in full. -/
def wholeTag? (handles : Handles) (handle rest : List Char) : Option (List Char) :=
  if handle.isEmpty then some rest else (handles.lookup handle).map (· ++ rest)

/-- The properties in front of a node: at most one name and one tag. -/
def properties? (handles : Handles) : List Token → Option (Properties × List Token)
  | .name name :: .tag handle rest :: tokens => do
      return (⟨some name, some (← wholeTag? handles handle rest)⟩, tokens)
  | .tag handle rest :: .name name :: tokens => do
      return (⟨some name, some (← wholeTag? handles handle rest)⟩, tokens)
  | .name name :: tokens => some (⟨some name, none⟩, tokens)
  | .tag handle rest :: tokens => do
      return (⟨none, some (← wholeTag? handles handle rest)⟩, tokens)
  | tokens => some ({}, tokens)

/-! ## Nodes -/

/-- Whether an entry of a block ends before the next token. -/
def endsEntry (inMembers : Bool) : List Token → Bool
  | .blockEnd :: _ => true
  | .dash :: _ => !inMembers
  | .key :: _ | .value :: _ => inMembers
  | _ => false

/-- Whether an entry between brackets ends before the next token, which may be a
colon. -/
def endsFlowEntry (atKey : Bool) : List Token → Bool
  | .comma :: _ | .closeBracket :: _ | .closeBrace :: _ => true
  | .value :: _ => atKey
  | _ => false

/-- The tokens behind the comma between entries; there is none before the first. -/
def afterComma? (first : Bool) : List Token → Option (List Token)
  | .comma :: tokens => if first then some (.comma :: tokens) else some tokens
  | tokens => if first then some tokens else none

mutual

/-- A node and the tokens behind it.  Only in a block it can be told by indentation,
and only the part of a member can be items in the column of its key. -/
def node (handles : Handles) :
    Nat → (inBlock : Bool) → (inMember : Bool) → List Token → Option (Yaml × List Token)
  | 0, _, _, _ => none
  | _ + 1, _, _, .repeated name :: tokens => some (.repeated name, tokens)
  | fuel + 1, inBlock, inMember, tokens => do
      let (p, tokens) ← properties? handles tokens
      let collection (r : Option (Yaml × List Token)) : Option (Yaml × List Token) :=
        r.map fun (node, tokens) => (p.apply node, tokens)
      let empty : Option (Yaml × List Token) :=
        if p = {} then none else some (p.apply (.scalar .plain p.tag []), tokens)
      match tokens with
      | .scalar style text :: tokens => some (p.apply (.scalar style p.tag text), tokens)
      | .openBracket :: tokens => collection (flowItems handles fuel true [] tokens)
      | .openBrace :: tokens => collection (flowMembers handles fuel true [] tokens)
      | .itemsStart :: tokens =>
          if inBlock then collection (blockItems handles fuel [] tokens) else empty
      | .membersStart :: tokens =>
          if inBlock then collection (blockMembers handles fuel [] tokens) else empty
      | .dash :: _ =>
          if inMember then collection (bareItems handles fuel [] tokens) else empty
      | _ => empty

/-- The items of a block. -/
def blockItems (handles : Handles) : Nat → List Yaml → List Token → Option (Yaml × List Token)
  | 0, _, _ => none
  | _ + 1, items, .blockEnd :: tokens => some (.sequence items.reverse, tokens)
  | fuel + 1, items, .dash :: tokens =>
      if endsEntry false tokens then blockItems handles fuel (absent :: items) tokens
      else do
        let (item, tokens) ← node handles fuel true false tokens
        blockItems handles fuel (item :: items) tokens
  | _ + 1, _, _ => none

/-- The items in the column of the key that they belong to. -/
def bareItems (handles : Handles) : Nat → List Yaml → List Token → Option (Yaml × List Token)
  | 0, _, _ => none
  | fuel + 1, items, .dash :: tokens =>
      if endsEntry false tokens || endsEntry true tokens then
        bareItems handles fuel (absent :: items) tokens
      else do
        let (item, tokens) ← node handles fuel true false tokens
        bareItems handles fuel (item :: items) tokens
  | _ + 1, items, tokens => some (.sequence items.reverse, tokens)

/-- The members of a block. -/
def blockMembers (handles : Handles) :
    Nat → List (Yaml × Yaml) → List Token → Option (Yaml × List Token)
  | 0, _, _ => none
  | _ + 1, members, .blockEnd :: tokens => some (.mapping members.reverse, tokens)
  | fuel + 1, members, .key :: tokens => do
      let (key, tokens) ←
        if endsEntry true tokens then some (absent, tokens) else node handles fuel true true tokens
      let (value, tokens) ← (match tokens with
        | .value :: tokens =>
            if endsEntry true tokens then some (absent, tokens)
            else node handles fuel true true tokens
        | _ => some (absent, tokens))
      blockMembers handles fuel ((key, value) :: members) tokens
  | _ + 1, _, _ => none

/-- The items between square brackets.  An item with a colon is a mapping of its own;
if it has no key, a token is passed over. -/
def flowItems (handles : Handles) :
    Nat → (first : Bool) → List Yaml → List Token → Option (Yaml × List Token)
  | 0, _, _, _ => none
  | _ + 1, _, items, .closeBracket :: tokens => some (.sequence items.reverse, tokens)
  | fuel + 1, first, items, tokens => do
      match ← afterComma? first tokens with
      | .closeBracket :: tokens => return (.sequence items.reverse, tokens)
      | .key :: tokens =>
          let (key, tokens) ←
            if endsFlowEntry true tokens then some (absent, tokens.tail)
            else node handles fuel false false tokens
          let (value, tokens) ← (match tokens with
            | .value :: tokens =>
                if endsFlowEntry false tokens then some (absent, tokens)
                else node handles fuel false false tokens
            | _ => some (absent, tokens))
          flowItems handles fuel false (.mapping [(key, value)] :: items) tokens
      | tokens =>
          let (item, tokens) ← node handles fuel false false tokens
          flowItems handles fuel false (item :: items) tokens

/-- The members between braces. -/
def flowMembers (handles : Handles) :
    Nat → (first : Bool) → List (Yaml × Yaml) → List Token → Option (Yaml × List Token)
  | 0, _, _, _ => none
  | _ + 1, _, members, .closeBrace :: tokens => some (.mapping members.reverse, tokens)
  | fuel + 1, first, members, tokens => do
      match ← afterComma? first tokens with
      | .closeBrace :: tokens => return (.mapping members.reverse, tokens)
      | .key :: tokens =>
          let (key, tokens) ←
            if endsFlowEntry true tokens then some (absent, tokens)
            else node handles fuel false false tokens
          let (value, tokens) ← (match tokens with
            | .value :: tokens =>
                if endsFlowEntry false tokens then some (absent, tokens)
                else node handles fuel false false tokens
            | _ => some (absent, tokens))
          flowMembers handles fuel false ((key, value) :: members) tokens
      | tokens =>
          let (key, tokens) ← node handles fuel false false tokens
          flowMembers handles fuel false ((key, absent) :: members) tokens

end

/-! ## Documents -/

/-- The handles that need no directive. -/
def commonHandles : Handles :=
  [(['!'], ['!']), (['!', '!'], "tag:yaml.org,2002:".toList)]

/-- The handles that directives give, and the tokens behind these.  There is at most
one directive for a handle, and one for the version, which is 1.1 or 1.2. -/
def directives? (versionSeen : Bool) (handles : Handles) :
    List Token → Option (Handles × List Token)
  | .version major minor :: tokens =>
      if versionSeen ∨ major ≠ 1 ∨ (minor ≠ 1 ∧ minor ≠ 2) then none
      else directives? true handles tokens
  | .handle handle meaning :: tokens =>
      if (handles.lookup handle).isSome then none
      else directives? versionSeen ((handle, meaning) :: handles) tokens
  | tokens => some (handles ++ commonHandles, tokens)

/-- Whether the content of a document is left out before the next token. -/
def endsDocument : List Token → Bool
  | [] => true
  | .version .. :: _ | .handle .. :: _ | .documentStart :: _ | .documentEnd :: _ => true
  | _ => false

/-- The document that tokens start with, if there is one, and the tokens behind it.
Behind directives and their mark it may be left out. -/
def document? (tokens : List Token) : Option (Option Yaml × List Token) := do
  let fuel := 2 * tokens.length + 2
  let (handles, behind) ← directives? false [] tokens
  match behind with
  | .documentStart :: content =>
      if endsDocument content then return (some absent, content)
      let (root, rest) ← node handles fuel true false content
      return (some root, rest)
  | [] => if tokens.isEmpty then return (none, []) else none
  | _ =>
      guard (behind.length = tokens.length)
      let (root, rest) ← node handles fuel true false tokens
      return (some root, rest)

/-- **The only document of a text**, with its repetitions resolved; `none` inside if
the text has no document. -/
def ofText? (text : String) : Option (Option Yaml) := do
  let chars := text.toList
  let chars := if chars.head? = some '\ufeff' then chars.tail else chars
  let (root, rest) ← document? (← tokens? chars)
  guard (rest.all (· = .documentEnd))
  match root with
  | none => return none
  | some root => return some (← resolve [] root).1

end PromptPipeline.Yaml
