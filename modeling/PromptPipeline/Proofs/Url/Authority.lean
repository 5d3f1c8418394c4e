/-
# Proofs.Url.Authority -- which authorities are accepted

The authority of a URL has user information up to the last `@`, then a host, then a port, and
ends at the first slash, question mark or number sign.  A colon belongs to the host only between
brackets, so the parts are told apart in one way (`exists_user`, `hostLength_eq_iff`), and the
authority is accepted exactly if the host is an address and the port has digits only and fits in
two bytes (`checkAuthority_ok_iff`).
-/
import PromptPipeline.Proofs.Json.Scalar
import PromptPipeline.Proofs.Text.Trim
import PromptPipeline.Url.Reader

namespace PromptPipeline.Url

set_option autoImplicit false

variable {labels? : Domain.Reading} {s host rest before : List Char} {c : Char}

/-! ## Brackets -/

/-- The last bracket is an opening one. -/
def Bracketed (s : List Char) : Prop :=
  ∃ outside inside, s = outside ++ '[' :: inside ∧ ']' ∉ inside

theorem bracketed_concat_iff :
    Bracketed (s ++ [c]) ↔ c = '[' ∨ c ≠ ']' ∧ Bracketed s := by
  constructor
  · rintro ⟨outside, inside, is, noEnd⟩
    rcases List.eq_nil_or_concat inside with rfl | ⟨inside, d, rfl⟩
    · exact .inl (List.append_inj_right' is rfl |> List.singleton_inj.1)
    · rw [List.concat_eq_append, ← List.cons_append, ← List.append_assoc] at is
      obtain ⟨front, last⟩ := List.append_inj' is rfl
      obtain rfl : c = d := List.singleton_inj.1 last
      rw [List.concat_eq_append, List.mem_append, not_or] at noEnd
      refine .inr ⟨fun ends => noEnd.2 (List.mem_singleton.2 ends.symm), ?_⟩
      exact ⟨outside, inside, front, noEnd.1⟩
  · rintro (rfl | ⟨other, outside, inside, rfl, noEnd⟩)
    · exact ⟨s, [], rfl, List.not_mem_nil⟩
    · refine ⟨outside, inside ++ [c], by simp, ?_⟩
      rw [List.mem_append, List.mem_singleton, not_or]
      exact ⟨noEnd, other.symm⟩

/-! ## Hosts -/

/-- A host that follows other text of the authority and is followed by a rest: it has no end of
the authority, colons only between brackets, and ends where it has to. -/
structure IsCut (before host rest : List Char) : Prop where
  within : ∀ c ∈ host, endsAuthority true c = false
  colons : ∀ a b, host = a ++ ':' :: b → Bracketed (before ++ a)
  stops : ∀ c ∈ rest.head?, endsAuthority true c = true ∨ c = ':' ∧ ¬Bracketed (before ++ host)

theorem isCut_nil_iff : IsCut before [] rest
    ↔ ∀ c ∈ rest.head?, endsAuthority true c = true ∨ c = ':' ∧ ¬Bracketed before := by
  constructor
  · intro cut c first
    have stops := cut.stops c first
    rwa [List.append_nil] at stops
  · intro stops
    refine ⟨nofun, fun a b is => ?_, by rwa [List.append_nil]⟩
    cases a <;> cases is

theorem isCut_cons_iff : IsCut before (c :: host) rest
    ↔ (endsAuthority true c = false ∧ (c = ':' → Bracketed before))
      ∧ IsCut (before ++ [c]) host rest := by
  constructor
  · rintro ⟨within, colons, stops⟩
    obtain ⟨here, within⟩ := List.forall_mem_cons.1 within
    refine ⟨⟨here, fun colon => ?_⟩, within, fun a b is => ?_, ?_⟩
    · have outside := colons [] host (by rw [colon]; rfl)
      rwa [List.append_nil] at outside
    · rw [List.append_assoc]
      exact colons (c :: a) b (by rw [is]; rfl)
    · rwa [List.append_assoc]
  · rintro ⟨⟨here, colon⟩, within, colons, stops⟩
    refine ⟨List.forall_mem_cons.2 ⟨here, within⟩, fun a b is => ?_, ?_⟩
    · cases a with
      | nil =>
          obtain ⟨rfl, -⟩ := List.cons.inj is
          rw [List.append_nil]
          exact colon rfl
      | cons d a =>
          obtain ⟨rfl, behind⟩ := List.cons.inj is
          have inside := colons a b behind
          rwa [List.append_assoc] at inside
    · rwa [List.append_assoc] at stops

/-- A character ends a host if it ends the authority or is a colon outside of brackets. -/
theorem endsHost_iff {bracketed : Bool} (state : bracketed = true ↔ Bracketed before) :
    ((c == ':' && !bracketed) || endsAuthority true c) = true
      ↔ endsAuthority true c = true ∨ c = ':' ∧ ¬Bracketed before := by
  rw [← state]
  simp [or_comm]

/-- **A host ends where it is cut.** -/
theorem hostLength_eq_iff {bracketed : Bool} (state : bracketed = true ↔ Bracketed before) :
    hostLength true bracketed (host ++ rest) = host.length ↔ IsCut before host rest := by
  induction host generalizing before bracketed with
  | nil =>
      rw [isCut_nil_iff, List.nil_append, List.length_nil]
      cases rest with
      | nil => simp [hostLength]
      | cons c rest =>
          rw [hostLength]
          split
          · rename_i stop
            simpa using (endsHost_iff state).1 stop
          · rename_i goesOn
            simpa using fun stop => goesOn ((endsHost_iff state).2 stop)
  | cons c host ih =>
      rw [List.cons_append, hostLength, isCut_cons_iff, List.length_cons]
      split
      · rename_i stop
        constructor
        · intro zero
          cases zero
        · rintro ⟨⟨here, colon⟩, -⟩
          rcases (endsHost_iff state).1 stop with last | ⟨isColon, outside⟩
          · rw [here] at last
            cases last
          · exact absurd (colon isColon) outside
      · rename_i goesOn
        have inside : endsAuthority true c = false ∧ (c = ':' → Bracketed before) :=
          ⟨Bool.eq_false_iff.2 fun last => goesOn ((endsHost_iff state).2 (.inl last)),
            fun colon => Classical.byContradiction fun outside =>
              goesOn ((endsHost_iff state).2 (.inr ⟨colon, outside⟩))⟩
        rw [and_iff_right inside, Nat.add_comm 1, Nat.add_right_cancel_iff]
        refine ih ?_
        rw [bracketed_concat_iff, ← state]
        by_cases opens : c = '['
        · simp [opens]
        · by_cases closes : c = ']' <;> simp [opens, closes]

/-- **An address**: one of IPv6 between brackets, or a domain, which has to be an address of IPv4
if it ends in a number. -/
def IsAddress (labels? : Domain.Reading) (host : List Char) : Prop :=
  (∃ inner, host = '[' :: (inner ++ [']']) ∧ isIpv6 inner = true)
    ∨ host.head? ≠ some '[' ∧ ∃ domain, Domain.normal? labels? host = some domain ∧ domain ≠ []
      ∧ (endsInNumber domain = true → isIpv4 domain = true)

theorem checkHost_bracket_ok_iff :
    checkHost labels? ('[' :: s) = .ok () ↔ ∃ inner, s = inner ++ [']'] ∧ isIpv6 inner = true := by
  have unfolded : checkHost labels? ('[' :: s)
      = if ('[' :: s).getLast? = some ']' && isIpv6 s.dropLast then .ok ()
        else .error .invalidIpv6 := rfl
  rw [unfolded]
  constructor
  · intro read
    split at read
    · rename_i accepted
      rw [Bool.and_eq_true, decide_eq_true_eq] at accepted
      obtain ⟨last, ipv6⟩ := accepted
      cases s with
      | nil => cases last
      | cons c s =>
          rw [List.getLast?_cons_cons] at last
          obtain ⟨inner, is⟩ := List.getLast?_eq_some_iff.1 last
          rw [is, List.dropLast_concat] at ipv6
          exact ⟨inner, is, ipv6⟩
    · cases read
  · rintro ⟨inner, rfl, ipv6⟩
    have last : ('[' :: (inner ++ [']'])).getLast? = some ']' := by
      rw [← List.cons_append, List.getLast?_concat]
    rw [last, List.dropLast_concat, ipv6]
    rfl

theorem checkHost_domain_ok_iff (domain : host.head? ≠ some '[') :
    checkHost labels? host = .ok ()
      ↔ ∃ domain, Domain.normal? labels? host = some domain ∧ domain ≠ []
        ∧ (endsInNumber domain = true → isIpv4 domain = true) := by
  rw [checkHost, if_neg domain]
  cases Domain.normal? labels? host with
  | none => simp
  | some domain =>
      cases domain with
      | nil => simp
      | cons c domain =>
          simp only [Option.some.injEq, exists_eq_left', ne_eq, reduceCtorEq, not_false_eq_true,
            true_and]
          cases endsInNumber (c :: domain) <;> cases isIpv4 (c :: domain) <;> decide

/-- **Which hosts are accepted.** -/
theorem checkHost_ok_iff : checkHost labels? host = .ok () ↔ IsAddress labels? host := by
  by_cases bracket : host.head? = some '['
  · obtain ⟨s, rfl⟩ : ∃ s, host = '[' :: s := by
      cases host with
      | nil => cases bracket
      | cons c s => exact ⟨s, by rw [Option.some.inj bracket]⟩
    rw [checkHost_bracket_ok_iff, IsAddress, or_iff_left fun other => other.1 bracket]
    simp only [List.cons.injEq, true_and]
  · rw [checkHost_domain_ok_iff bracket, IsAddress, or_iff_right, and_iff_right bracket]
    rintro ⟨inner, rfl, -⟩
    exact bracket rfl

/-! ## Ports -/

/-- The authority ends here. -/
def AtEnd (rest : List Char) : Prop := ∀ c ∈ rest.head?, endsAuthority true c = true

/-- The number that digits make behind those read before. -/
def portFrom (n : Nat) (digits : List Char) : Nat :=
  digits.foldl (fun n c => n * 10 + (Text.hexValue? c).getD 0) n

theorem portFrom_cons (n : Nat) (c : Char) (digits : List Char) :
    portFrom n (c :: digits) = portFrom (portFrom n [c]) digits := rfl

theorem le_portFrom (n : Nat) (digits : List Char) : n ≤ portFrom n digits := by
  induction digits generalizing n with
  | nil => exact Nat.le_refl n
  | cons c digits ih =>
      rw [portFrom_cons]
      refine Nat.le_trans ?_ (ih _)
      change n ≤ n * 10 + _
      omega

/-- A port has digits only, if any, and fits in two bytes. -/
structure IsPort (port : List Char) : Prop where
  digits : ∀ c ∈ port, c.isDigit = true
  fits : Text.readDigits 10 port ≤ 65535

theorem endsAuthority_of_isDigit (digit : c.isDigit = true) : endsAuthority true c = false := by
  have others : ∀ d ∈ ['/', '?', '#', '\\'], d.isDigit = false := by decide
  refine Bool.eq_false_iff.2 fun ends => ?_
  have among : c ∈ ['/', '?', '#', '\\'] := by simpa [endsAuthority, or_assoc] using ends
  rw [others c among] at digit
  cases digit

theorem checkPort_digit (digit : c.isDigit = true) (n : Nat) (s : List Char) :
    checkPort n (c :: s)
      = if 65535 < portFrom n [c] then .error .invalidPort else checkPort (portFrom n [c]) s := by
  have value : portFrom n [c] = n * 10 + (c.toNat - '0'.toNat) := by
    rw [portFrom, List.foldl_cons, List.foldl_nil, Json.hexValue?_of_isDigit digit,
      Option.getD_some]
  rw [checkPort, if_pos digit, value]

/-- The port goes on with the number read so far, up to the end of the authority. -/
def GoesOn (n : Nat) (s : List Char) : Prop :=
  ∃ port rest, s = port ++ rest ∧ (∀ c ∈ port, c.isDigit = true) ∧ portFrom n port ≤ 65535
    ∧ AtEnd rest

/-- A digit belongs to the port. -/
theorem goesOn_digit_iff (digit : c.isDigit = true) {n : Nat} :
    GoesOn n (c :: s) ↔ GoesOn (portFrom n [c]) s := by
  constructor
  · rintro ⟨port, rest, is, digits, least, stops⟩
    cases port with
    | nil =>
        obtain rfl : c :: s = rest := is
        have last := stops c rfl
        rw [endsAuthority_of_isDigit digit] at last
        cases last
    | cons d port =>
        obtain ⟨rfl, behind⟩ := List.cons.inj is
        exact ⟨port, rest, behind, (List.forall_mem_cons.1 digits).2, least, stops⟩
  · rintro ⟨port, rest, rfl, digits, least, stops⟩
    exact ⟨c :: port, rest, rfl, List.forall_mem_cons.2 ⟨digit, digits⟩, least, stops⟩

/-- Anything else has to end the authority. -/
theorem goesOn_other_iff (other : ¬c.isDigit = true) {n : Nat} (fits : n ≤ 65535) :
    GoesOn n (c :: s) ↔ endsAuthority true c = true := by
  constructor
  · rintro ⟨port, rest, is, digits, -, stops⟩
    cases port with
    | nil =>
        obtain rfl : c :: s = rest := is
        exact stops c rfl
    | cons d port =>
        obtain ⟨rfl, -⟩ := List.cons.inj is
        exact absurd (digits c List.mem_cons_self) other
  · intro stop
    exact ⟨[], c :: s, rfl, nofun, fits, fun d first => Option.some.inj first ▸ stop⟩

theorem GoesOn.le {n : Nat} (goesOn : GoesOn n s) : n ≤ 65535 := by
  obtain ⟨port, -, -, -, least, -⟩ := goesOn
  exact Nat.le_trans (le_portFrom n port) least

theorem checkPort_ok_iff_of_le {n : Nat} (fits : n ≤ 65535) :
    checkPort n s = .ok () ↔ GoesOn n s := by
  induction s generalizing n with
  | nil => exact ⟨fun _ => ⟨[], [], rfl, nofun, fits, nofun⟩, fun _ => rfl⟩
  | cons c s ih =>
      by_cases digit : c.isDigit = true
      · rw [checkPort_digit digit, goesOn_digit_iff digit]
        split
        · rename_i large
          exact iff_of_false nofun fun goesOn => absurd goesOn.le (Nat.not_le.2 large)
        · rename_i small
          exact ih (Nat.not_lt.1 small)
      · rw [checkPort, if_neg digit, goesOn_other_iff digit fits]
        split
        · rename_i stop
          exact iff_of_true rfl stop
        · rename_i inside
          exact iff_of_false nofun inside

/-- **Which ports are accepted.** -/
theorem checkPort_ok_iff : checkPort 0 s = .ok ()
    ↔ ∃ port rest, s = port ++ rest ∧ IsPort port ∧ AtEnd rest := by
  rw [checkPort_ok_iff_of_le (by decide)]
  constructor
  · rintro ⟨port, rest, is, digits, fits, stops⟩
    exact ⟨port, rest, is, ⟨digits, fits⟩, stops⟩
  · rintro ⟨port, rest, is, ⟨digits, fits⟩, stops⟩
    exact ⟨port, rest, is, digits, fits, stops⟩

/-! ## User information -/

/-- User information, with its sign. -/
def IsUser (user : List Char) : Prop :=
  user = [] ∨ ∃ info, user = info ++ ['@'] ∧ ∀ c ∈ info, endsAuthority true c = false

/-- The authority at the start of a text. -/
def authority (s : List Char) : List Char := s.takeWhile (!endsAuthority true ·)

theorem authority_append (inside : ∀ c ∈ before, endsAuthority true c = false) :
    authority (before ++ s) = before ++ authority s :=
  List.takeWhile_append_of_pos fun c member => by rw [inside c member]; rfl

theorem afterUserinfo?_eq (s : List Char) :
    afterUserinfo? true s
      = if (authority s).contains '@' then
          let behind := ((authority s).reverse.takeWhile (· != '@')).length
          some ((authority s).length != behind + 1, s.drop ((authority s).length - behind))
        else none := rfl

theorem afterUserinfo?_of_bare (bare : '@' ∉ authority s) : afterUserinfo? true s = none := by
  rw [afterUserinfo?_eq, if_neg (by simpa using bare)]

/-- The user information goes up to the last sign of the authority. -/
theorem afterUserinfo?_of_signed {info place : List Char}
    (inside : ∀ c ∈ info, endsAuthority true c = false) (bare : '@' ∉ authority place) :
    afterUserinfo? true (info ++ '@' :: place) = some (!info.isEmpty, place) := by
  have whole : authority (info ++ '@' :: place) = info ++ '@' :: authority place := by
    rw [authority_append inside]
    rfl
  have behind : (info ++ '@' :: authority place).reverse.takeWhile (· != '@')
      = (authority place).reverse := by
    have others : ∀ c ∈ (authority place).reverse, (c != '@') = true := fun c member =>
      bne_iff_ne.2 fun sign => bare (sign ▸ List.mem_reverse.1 member)
    rw [List.reverse_append, List.reverse_cons, List.append_assoc,
      List.takeWhile_append_of_pos others]
    simp
  have length : (info ++ '@' :: authority place).length
      = info.length + 1 + (authority place).length := by
    rw [List.length_append, List.length_cons]
    omega
  have dropped : (info ++ '@' :: place).drop (info.length + 1) = place := by
    rw [List.append_cons]
    exact List.drop_left' (by simp)
  rw [afterUserinfo?_eq, whole, if_pos (by simp)]
  dsimp only
  rw [behind, length, List.length_reverse, Nat.add_sub_cancel, dropped]
  cases info with
  | nil => simp [Nat.add_comm]
  | cons c info => simp; omega

theorem inside_authority (s : List Char) : ∀ c ∈ authority s, endsAuthority true c = false := by
  intro c member
  simpa using List.all_eq_true.1 List.all_takeWhile c member

/-- What is cut off behind the authority starts with its end. -/
theorem authority_of_atEnd (stops : AtEnd rest) : authority rest = [] := by
  cases rest with
  | nil => rfl
  | cons c rest => exact List.takeWhile_cons_of_neg (by simp [stops c rfl])

/-- A text has user information, if any, and a place without. -/
theorem exists_user (s : List Char) :
    ∃ user place, s = user ++ place ∧ IsUser user ∧ '@' ∉ authority place := by
  by_cases signed : '@' ∈ authority s
  · obtain ⟨after, info, is, bare⟩ := List.eq_append_cons_of_mem (List.mem_reverse.2 signed)
    have whole : authority s = info.reverse ++ '@' :: after.reverse := by
      rw [← List.reverse_reverse (authority s), is]
      simp
    have inside := inside_authority s
    rw [whole, List.forall_mem_append, List.forall_mem_cons] at inside
    let rest := s.dropWhile (!endsAuthority true ·)
    have stops : AtEnd rest := by
      intro c first
      have kept := Text.dropLeading_head s c first
      simpa using kept
    refine ⟨info.reverse ++ ['@'], after.reverse ++ rest, ?_, .inr ⟨_, rfl, inside.1⟩, ?_⟩
    · have split : authority s ++ rest = s := List.takeWhile_append_dropWhile
      rw [whole] at split
      rw [← split]
      simp
    · rw [authority_append inside.2.2, authority_of_atEnd stops, List.append_nil,
        List.mem_reverse]
      exact bare
  · exact ⟨[], s, rfl, .inl rfl, signed⟩

/-! ## Authorities -/

/-- An address as a host, followed by a rest of which nothing belongs to it. -/
structure IsHost (labels? : Domain.Reading) (host rest : List Char) : Prop where
  cut : IsCut [] host rest
  filled : host ≠ []
  bare : '@' ∉ host
  address : IsAddress labels? host

/-- **An authority** and what follows it: user information, a host and a port. -/
def IsAuthority (labels? : Domain.Reading) (s : List Char) : Prop :=
  ∃ user host port rest, s = user ++ (host ++ (port ++ rest))
    ∧ IsUser user ∧ IsHost labels? host (port ++ rest)
    ∧ (port = [] ∨ ∃ digits, port = ':' :: digits ∧ IsPort digits) ∧ AtEnd rest

/-- The host at the start of a place. -/
def hostOf (place : List Char) : List Char := place.take (hostLength true false place)

/-- What the user information leaves of a text. -/
theorem place_eq {user place : List Char} (isUser : IsUser user) (bare : '@' ∉ authority place) :
    ((afterUserinfo? true (user ++ place)).map (·.2)).getD (user ++ place) = place
      ∧ ∀ u ∈ afterUserinfo? true (user ++ place), u.2 = place := by
  rcases isUser with rfl | ⟨info, rfl, inside⟩
  · rw [List.nil_append, afterUserinfo?_of_bare bare]
    exact ⟨rfl, nofun⟩
  · rw [List.append_assoc, List.singleton_append, afterUserinfo?_of_signed inside bare]
    exact ⟨rfl, fun u is => by cases is; rfl⟩

theorem not_bracketed_nil : false = true ↔ Bracketed [] := by
  refine iff_of_false Bool.false_ne_true ?_
  rintro ⟨outside, inside, is, -⟩
  cases outside <;> cases is

theorem hostOf_append (cut : IsCut [] host rest) : hostOf (host ++ rest) = host := by
  rw [hostOf, (hostLength_eq_iff not_bracketed_nil).2 cut]
  exact List.take_left

theorem hostLength_le (bracketed : Bool) (s : List Char) :
    hostLength true bracketed s ≤ s.length := by
  induction s generalizing bracketed with
  | nil => exact Nat.le_refl 0
  | cons c s ih =>
      rw [hostLength, List.length_cons, Nat.add_comm 1]
      split
      · exact Nat.zero_le _
      · exact Nat.succ_le_succ (ih _)

/-- Every place has a host, if an empty one, and what follows it. -/
theorem exists_cut (place : List Char) :
    ∃ host rest, place = host ++ rest ∧ IsCut [] host rest := by
  refine ⟨hostOf place, place.drop (hostLength true false place), ?_, ?_⟩
  · exact (List.take_append_drop _ _).symm
  · refine (hostLength_eq_iff not_bracketed_nil).1 ?_
    rw [hostOf, List.take_append_drop, List.length_take, Nat.min_eq_left (hostLength_le _ _)]

/-- A place that begins with the end of the authority has no host. -/
theorem hostOf_of_stops {place : List Char}
    (stops : place.head?.any (endsAuthority true) = true) : hostOf place = [] := by
  cases place with
  | nil => cases stops
  | cons c place =>
      have last : endsAuthority true c = true := stops
      rw [hostOf, hostLength, last, Bool.or_true, if_pos rfl, List.take_zero]

/-- **The user information makes no difference**, and the host has to be there. -/
theorem checkAuthority_ok_iff_of_user {user place : List Char} (isUser : IsUser user)
    (bare : '@' ∉ authority place) :
    checkAuthority labels? true (user ++ place) = .ok ()
      ↔ hostOf place ≠ [] ∧ checkHost labels? (hostOf place) = .ok ()
        ∧ ∀ port, place.drop (hostOf place).length = ':' :: port → checkPort 0 port = .ok () := by
  obtain ⟨behind, only⟩ := place_eq isUser bare
  have host : place.take (hostLength true false place) = hostOf place := rfl
  unfold checkAuthority
  dsimp only
  rw [behind, host]
  by_cases empty : hostOf place = []
  · rw [empty]
    refine iff_of_false (fun read => ?_) fun accepted => accepted.1 rfl
    split at read
    · cases read
    · cases read
  · have first : ¬(afterUserinfo? true (user ++ place)).any
        (fun u => !u.1 && u.2.head?.any (endsAuthority true)) = true := by
      intro ends
      obtain ⟨u, member, stops⟩ := (Option.any_eq_true _ _).1 ends
      rw [only u member, Bool.and_eq_true] at stops
      exact empty (hostOf_of_stops stops.2)
    have filled : (hostOf place).isEmpty = false := List.isEmpty_eq_false_iff.2 empty
    rw [if_neg first, filled, Bool.and_false, if_neg Bool.false_ne_true, if_pos rfl,
      Bool.false_and, if_neg Bool.false_ne_true, and_iff_right empty]
    cases checkHost labels? (hostOf place) with
    | error fault => exact iff_of_false (fun read => nomatch read) fun both => nomatch both.1
    | ok =>
        rw [and_iff_right rfl]
        dsimp only [bind, Except.bind]
        split
        · rename_i port is
          simp [is]
        · rename_i other
          exact iff_of_true rfl fun port is => absurd is (other port)

/-- No sign stands in a port. -/
theorem bare_of_isPort {port rest : List Char}
    (isPort : port = [] ∨ ∃ digits, port = ':' :: digits ∧ IsPort digits) (stops : AtEnd rest) :
    '@' ∉ authority (port ++ rest) := by
  rcases isPort with rfl | ⟨digits, rfl, isPort⟩
  · rw [List.nil_append, authority_of_atEnd stops]
    exact List.not_mem_nil
  · have within : ∀ c ∈ ':' :: digits, endsAuthority true c = false :=
      List.forall_mem_cons.2
        ⟨rfl, fun c member => endsAuthority_of_isDigit (isPort.digits c member)⟩
    rw [authority_append within, authority_of_atEnd stops, List.append_nil]
    intro sign
    rcases List.mem_cons.1 sign with colon | digit
    · cases colon
    · exact absurd (isPort.digits _ digit) (by decide)

/-- What is accepted is an authority. -/
theorem isAuthority_of_check (read : checkAuthority labels? true s = .ok ()) : IsAuthority labels? s := by
  obtain ⟨user, place, rfl, isUser, bare⟩ := exists_user s
  obtain ⟨host, after, rfl, cut⟩ := exists_cut place
  obtain ⟨filled, accepted, ports⟩ := (checkAuthority_ok_iff_of_user isUser bare).1 read
  rw [hostOf_append cut] at filled accepted ports
  rw [List.drop_left] at ports
  have noSign : '@' ∉ host := by
    intro sign
    rw [authority_append cut.within] at bare
    exact bare (List.mem_append_left _ sign)
  have address := checkHost_ok_iff.1 accepted
  cases after with
  | nil =>
      exact ⟨user, host, [], [], rfl, isUser, ⟨cut, filled, noSign, address⟩, .inl rfl, nofun⟩
  | cons c rest =>
      rcases cut.stops c rfl with stop | ⟨rfl, -⟩
      · exact ⟨user, host, [], c :: rest, rfl, isUser, ⟨cut, filled, noSign, address⟩, .inl rfl,
          fun d first => Option.some.inj first ▸ stop⟩
      · obtain ⟨digits, rest, rfl, isPort, stops⟩ := checkPort_ok_iff.1 (ports rest rfl)
        exact ⟨user, host, ':' :: digits, rest, rfl, isUser, ⟨cut, filled, noSign, address⟩,
          .inr ⟨digits, rfl, isPort⟩, stops⟩

theorem check_of_isAuthority (isAuthority : IsAuthority labels? s) :
    checkAuthority labels? true s = .ok () := by
  obtain ⟨user, host, port, rest, rfl, isUser, isHost, isPort, stops⟩ := isAuthority
  have noSign : '@' ∉ authority (host ++ (port ++ rest)) := by
    rw [authority_append isHost.cut.within, List.mem_append, not_or]
    exact ⟨isHost.bare, bare_of_isPort isPort stops⟩
  refine (checkAuthority_ok_iff_of_user isUser noSign).2 ?_
  rw [hostOf_append isHost.cut, List.drop_left]
  refine ⟨isHost.filled, checkHost_ok_iff.2 isHost.address, fun read is => ?_⟩
  rcases isPort with rfl | ⟨digits, rfl, isPort⟩
  · rw [List.nil_append] at is
    have colon := stops ':' (by rw [is]; rfl)
    cases colon
  · obtain ⟨-, rfl⟩ := List.cons.inj is
    exact checkPort_ok_iff.2 ⟨digits, rest, rfl, isPort, stops⟩

/-- **Which authorities are accepted.** -/
theorem checkAuthority_ok_iff : checkAuthority labels? true s = .ok () ↔ IsAuthority labels? s :=
  ⟨isAuthority_of_check, check_of_isAuthority⟩

end PromptPipeline.Url
