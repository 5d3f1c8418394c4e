/-
# Url.Reader -- absolute URLs

Reading follows the URL standard as far as it decides whether a text is an
absolute URL: the scheme, the authority and its host and port.  Nothing after
the authority can be wrong.

`checkWith` gives the scheme in lower case or the fault, for a reading of domain names;
`check` is it for international domain names.
-/
import PromptPipeline.Idna.Label
import PromptPipeline.Url.Domain

namespace PromptPipeline.Url

set_option autoImplicit false

/-! ## Schemes -/

/-- How the text after a scheme is read. -/
inductive SchemeKind
  | file
  | special
  | other
deriving Repr, DecidableEq

/-- The kind of a scheme in lower case. -/
def SchemeKind.of (scheme : String) : SchemeKind :=
  if scheme = "file" then .file
  else if ["http", "https", "ws", "wss", "ftp"].contains scheme then .special
  else .other

/-- Whether a character may stand in a scheme. -/
def isSchemeChar (c : Char) : Bool := c.isAlphanum || c == '+' || c == '-' || c == '.'

/-- The scheme in lower case and what follows its colon. -/
def scheme? (s : List Char) : Option (String × List Char) :=
  match s.head?.any Char.isAlpha, s.dropWhile isSchemeChar with
  | true, ':' :: rest => some (String.ofList ((s.takeWhile isSchemeChar).map Char.toLower), rest)
  | _, _ => none

/-! ## Hosts and ports -/

/-- Whether a character ends an authority. -/
def endsAuthority (special : Bool) (c : Char) : Bool :=
  c == '/' || c == '?' || c == '#' || (special && c == '\\')

/-- The characters that the host of a non-special URL must not have. -/
def isForbiddenHostChar (c : Char) : Bool :=
  ['\x00', '\t', '\n', '\r', ' ', '#', '/', ':', '<', '>', '?', '@', '[', '\\', ']', '^',
    '|'].contains c

/-- Check the host of a special URL. -/
def checkHost (labels? : Domain.Reading) (host : List Char) : Except Fault Unit :=
  if host.head? = some '[' then
    if host.getLast? = some ']' && isIpv6 host.tail.dropLast then .ok () else .error .invalidIpv6
  else
    match Domain.normal? labels? host with
    | none => .error .invalidDomain
    | some [] => .error .emptyHost
    | some domain =>
        if endsInNumber domain && !isIpv4 domain then .error .invalidIpv4 else .ok ()

/-- Check the host of a URL whose scheme the standard does not know. -/
def checkOpaqueHost (host : List Char) : Except Fault Unit :=
  if host.head? = some '[' then
    if host.getLast? = some ']' && isIpv6 host.tail.dropLast then .ok () else .error .invalidIpv6
  else if host.any isForbiddenHostChar then .error .invalidHostCharacter
  else .ok ()

/-- The length of the host at the start of a text; a colon inside brackets belongs
to it. -/
def hostLength (special : Bool) (bracketed : Bool) : List Char → Nat
  | [] => 0
  | c :: rest =>
      if (c == ':' && !bracketed) || endsAuthority special c then 0
      else
        1 + hostLength special
          (if c == '[' then true else if c == ']' then false else bracketed) rest

/-- Check a port, read up to the end of the authority. -/
def checkPort : Nat → List Char → Except Fault Unit
  | _, [] => .ok ()
  | port, c :: rest =>
      if c.isDigit then
        let next := port * 10 + (c.toNat - '0'.toNat)
        if 65535 < next then .error .invalidPort else checkPort next rest
      else if endsAuthority true c then .ok ()
      else .error .invalidPort

/-- What follows the last `@` of the authority, and whether anything stands before
the sign. -/
def afterUserinfo? (special : Bool) (s : List Char) : Option (Bool × List Char) :=
  let authority := s.takeWhile (!endsAuthority special ·)
  if authority.contains '@' then
    let behind := (authority.reverse.takeWhile (· != '@')).length
    some (authority.length != behind + 1, s.drop (authority.length - behind))
  else none

/-- Check an authority, from after the slashes. -/
def checkAuthority (labels? : Domain.Reading) (special : Bool) (s : List Char) :
    Except Fault Unit :=
  let user := afterUserinfo? special s
  let named := user.any (·.1)
  let rest := (user.map (·.2)).getD s
  let host := rest.take (hostLength special false rest)
  let after := rest.drop host.length
  if user.any (fun u => !u.1 && u.2.head?.any (endsAuthority special)) then .error .emptyHost
  else if special && host.isEmpty then .error .emptyHost
  else do
    if special then checkHost labels? host else checkOpaqueHost host
    if host.isEmpty && (after.head? = some ':' || named) then .error .emptyHost
    else
      match after with
      | ':' :: port => checkPort 0 port
      | _ => .ok ()

/-- Whether a text is a drive letter, which is no host. -/
def isDriveLetter : List Char → Bool
  | [c, d] => c.isAlpha && (d == ':' || d == '|')
  | _ => false

/-- Check what follows the scheme `file`. -/
def checkFile (labels? : Domain.Reading) : List Char → Except Fault Unit
  | c :: d :: rest =>
      if endsPath c && endsPath d then
        let host := rest.takeWhile (!endsAuthority true ·)
        if host.isEmpty || isDriveLetter host then .ok () else checkHost labels? host
      else .ok ()
  | _ => .ok ()
where
  /-- The two slashes. -/
  endsPath (c : Char) : Bool := c == '/' || c == '\\'

/-! ## URLs -/

/-- A control or a space; they are dropped at both ends of a URL. -/
def isControlOrSpace (c : Char) : Bool := c ≤ ' '

/-- A tab or a line end; they are dropped anywhere in a URL. -/
def isIgnored (c : Char) : Bool := c == '\t' || c == '\n' || c == '\r'

/-- **The scheme of an absolute URL**, or why the text is none, for a reading of domain
names. -/
def checkWith (labels? : Domain.Reading) (text : String) : Except Fault String :=
  let s := (Text.strip isControlOrSpace text.toList).filter (!isIgnored ·)
  match scheme? s with
  | none => .error .relative
  | some (scheme, rest) => do
      match SchemeKind.of scheme with
      | .file => checkFile labels? rest
      | .special => checkAuthority labels? true (rest.dropWhile fun c => c == '/' || c == '\\')
      | .other =>
          match rest with
          | '/' :: '/' :: authority => checkAuthority labels? false authority
          | _ => .ok ()
      return scheme

/-- The scheme of an absolute URL, or why the text is none. -/
def check : String → Except Fault String := checkWith Idna.labels?

end PromptPipeline.Url
