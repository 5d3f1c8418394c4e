/-
# Proofs.Json.Text -- values that are read back from their texts

A text `Spells` a value if the reader takes it for this value wherever it stands before a
text that does not go on with a number.  Lists and objects are spelled by the texts of what
is in them, with any white space between (`Spells.list_cons`, `Spells.object_cons`), so both
ways of printing spell the value that they print if it is `Faultless`
(`spells_compact`, `spells_prettyAt`).  A text that spells a value says it
(`Spells.ofText`).
-/
import PromptPipeline.Proofs.Json.Scalar

namespace PromptPipeline.Json

set_option autoImplicit false

/-! ## Values without faults -/

/-- A value that is whole: nothing in it is cut off, and there is a value everywhere. -/
inductive Faultless : Json → Prop
  | null : Faultless .null
  | bool (value : Bool) : Faultless (.bool value)
  | number (value : Number) : Faultless (.number value)
  | string (value : String) : Faultless (.string value)
  | list {items : List Json} (each : ∀ j ∈ items, Faultless j) : Faultless (.list items)
  | object {members : List (String × Json)} (each : ∀ m ∈ members, Faultless m.2) :
      Faultless (.object members)

/-! ## White space -/

/-- Nothing but white space. -/
def Blank (gap : List Char) : Prop := ∀ c ∈ gap, isSpace c = true

theorem blank_nil : Blank [] := by
  intro c inside
  cases inside

theorem blank_space : Blank [' '] := by
  intro c inside
  rw [List.mem_singleton.1 inside]
  decide

theorem skip_blank {gap : List Char} (blank : Blank gap) (s : List Char) :
    skip (gap ++ s) = skip s := List.dropWhile_append_of_pos blank

theorem skip_solid {c : Char} (solid : isSpace c = false) (s : List Char) :
    skip (c :: s) = c :: s := List.dropWhile_cons_of_neg (by simp [solid])

theorem stops_cons {c : Char} (stops : c.isDigit = false ∧ c ≠ '.' ∧ c ≠ 'e' ∧ c ≠ 'E')
    (s : List Char) : Stops (c :: s) := by
  intro d head
  cases head
  exact stops

/-- White space before what stops a number stops it. -/
theorem Stops.blank {gap s : List Char} (blank : Blank gap) (stops : Stops s) :
    Stops (gap ++ s) := by
  cases gap with
  | nil => exact stops
  | cons c gap =>
      refine stops_cons ?_ _
      have space := blank c List.mem_cons_self
      simp only [isSpace, Bool.or_eq_true, beq_iff_eq] at space
      rcases space with ((rfl | rfl) | rfl) | rfl <;> decide

/-! ## Spelled values -/

/-- A text is read as a value where it stands, and it does not start like the end of a list. -/
structure Spells (j : Json) (s : List Char) : Prop where
  start : ∃ c t, s = c :: t ∧ isSpace c = false ∧ c ≠ ']'
  read : ∀ fuel rest, 3 * s.length < fuel → Stops rest → readValue fuel (s ++ rest) = (j, some rest)

/-- A text that starts like a value is read as it is where it stands. -/
theorem Spells.opened {j : Json} {c : Char} {t : List Char} (solid : isSpace c = false)
    (opens : c ≠ ']')
    (read : ∀ fuel rest, 3 * t.length + 2 < fuel → Stops rest →
      readValue (fuel + 1) (c :: (t ++ rest)) = (j, some rest)) : Spells j (c :: t) := by
  refine ⟨⟨c, t, rfl, solid, opens⟩, fun fuel rest enough stops => ?_⟩
  rw [List.length_cons] at enough
  obtain ⟨fuel, rfl⟩ := Nat.exists_eq_add_one_of_ne_zero (by omega : fuel ≠ 0)
  exact read fuel rest (by omega) stops

theorem spells_null : Spells .null "null".toList :=
  .opened (by decide) (by decide) fun _ _ _ _ => rfl

theorem spells_bool (b : Bool) : Spells (.bool b) (if b then "true" else "false").toList := by
  cases b with
  | false => exact .opened (by decide) (by decide) fun _ _ _ _ => rfl
  | true => exact .opened (by decide) (by decide) fun _ _ _ _ => rfl

/-- A digit is none of the characters that are no digits. -/
theorem ne_of_isDigit {c d : Char} (digit : c.isDigit = true) (notDigit : d.isDigit = false) :
    c ≠ d := by
  rintro rfl
  rw [digit] at notDigit
  cases notDigit

theorem isSpace_of_isDigit {c : Char} (digit : c.isDigit = true) : isSpace c = false := by
  have other {d : Char} (notDigit : d.isDigit = false) := ne_of_isDigit digit notDigit
  simp [isSpace, other (d := ' ') rfl, other (d := '\n') rfl, other (d := '\t') rfl,
    other (d := '\r') rfl]

/-- A value that starts with a digit is a number. -/
theorem readValue_digit {c : Char} (digit : c.isDigit = true) (fuel : Nat) (s : List Char) :
    readValue (fuel + 1) (c :: s) = readNumber false (c :: s) := by
  have other {d : Char} (notDigit : d.isDigit = false) := ne_of_isDigit digit notDigit
  unfold readValue
  rw [skip_solid (isSpace_of_isDigit digit)]
  simp [other (d := 'n') rfl, other (d := 't') rfl, other (d := 'f') rfl, other (d := '-') rfl,
    other (d := '"') rfl, other (d := '[') rfl, other (d := '\x7b') rfl, digit]

theorem spells_number (n : Number) : Spells (.number n) (numberText n).toList := by
  obtain ⟨negative, c, t, digit, is, read⟩ := readNumber_numberText n
  rw [is]
  cases negative with
  | true => exact .opened (by decide) (by decide) fun fuel rest _ stops => read rest stops
  | false =>
      refine .opened (isSpace_of_isDigit digit) (ne_of_isDigit digit rfl) ?_
      intro fuel rest _ stops
      rw [readValue_digit digit]
      exact read rest stops

theorem spells_string (s : String) : Spells (.string s) (stringText s).toList := by
  rw [toList_stringText]
  refine .opened (by decide) (by decide) fun fuel rest _ _ => ?_
  rw [List.append_assoc, List.singleton_append]
  unfold readValue
  rw [skip_solid (by decide)]
  simp only [readString_stringText]

/-! ## Lists -/

section Lists

variable {fuel : Nat} {gap : List Char} {c : Char}

theorem readItems_close (blank : Blank gap) (items : List Json) (rest : List Char) :
    readItems (fuel + 1) items (gap ++ ']' :: rest) = (.list items.reverse, some rest) := by
  unfold readItems
  rw [skip_blank blank, skip_solid (by decide)]
  cases items with
  | nil => rfl
  | cons item before => rfl

theorem readItems_first (blank : Blank gap) (solid : isSpace c = false) (opens : c ≠ ']')
    (s : List Char) : readItems (fuel + 1) [] (gap ++ c :: s) = readItem fuel [] (c :: s) := by
  unfold readItems
  rw [skip_blank blank, skip_solid solid]
  simp [opens]

theorem readItems_next (blank : Blank gap) (solid : isSpace c = false) (opens : c ≠ ']')
    (item : Json) (before : List Json) (s : List Char) :
    readItems (fuel + 1) (item :: before) (',' :: (gap ++ c :: s))
      = readItem fuel (item :: before) (c :: s) := by
  unfold readItems
  rw [skip_solid (by decide)]
  simp [skip_blank blank, skip_solid solid, opens]

end Lists

/-- A text is read as the rest of a list, from behind an item up to the bracket. -/
structure EndsList (items : List Json) (s : List Char) : Prop where
  stops : ∀ rest, Stops (s ++ rest)
  read : ∀ fuel item before rest, 3 * s.length < fuel →
    readItems fuel (item :: before) (s ++ rest)
      = (.list ((item :: before).reverse ++ items), some rest)

variable {j : Json} {items : List Json} {t s gap : List Char}

theorem endsList_nil (blank : Blank gap) : EndsList [] (gap ++ [']']) := by
  refine ⟨fun rest => ?_, fun fuel item before rest enough => ?_⟩
  · rw [List.append_assoc]
    exact .blank blank (stops_cons (by decide) _)
  · obtain ⟨fuel, rfl⟩ := Nat.exists_eq_add_one_of_ne_zero (Nat.ne_of_gt (Nat.zero_lt_of_lt enough))
    rw [List.append_assoc, List.singleton_append, readItems_close blank, List.append_nil]

/-- An item and the rest of the list are read behind the items before. -/
theorem Spells.readItem (spells : Spells j t) (ends : EndsList items s) (fuel : Nat)
    (before : List Json) (rest : List Char) (enough : 3 * (t ++ s).length < fuel) :
    readItem (fuel + 1) before (t ++ (s ++ rest))
      = (.list (before.reverse ++ j :: items), some rest) := by
  rw [List.length_append] at enough
  rw [Json.readItem, spells.read fuel _ (by omega) (ends.stops rest)]
  dsimp only
  rw [ends.read fuel j before rest (by omega), List.reverse_cons, List.append_assoc,
    List.singleton_append]

theorem EndsList.cons (blank : Blank gap) (spells : Spells j t) (ends : EndsList items s) :
    EndsList (j :: items) (',' :: (gap ++ (t ++ s))) := by
  refine ⟨fun rest => stops_cons (by decide) _, fun fuel item before rest enough => ?_⟩
  rw [List.length_cons, List.length_append] at enough
  obtain ⟨c, t, rfl, solid, opens⟩ := spells.start
  obtain ⟨fuel, rfl⟩ := Nat.exists_eq_add_of_le' (by omega : 2 ≤ fuel)
  have read := spells.readItem ends fuel (item :: before) rest (by omega)
  rw [List.cons_append, List.append_assoc, List.append_assoc, List.cons_append,
    readItems_next blank solid opens]
  exact read

/-- **A list is spelled by its first item and the rest of it.** -/
theorem Spells.list_cons (blank : Blank gap) (spells : Spells j t) (ends : EndsList items s) :
    Spells (.list (j :: items)) ('[' :: (gap ++ (t ++ s))) := by
  refine .opened (by decide) (by decide) fun fuel rest enough _ => ?_
  rw [List.length_append] at enough
  obtain ⟨c, t, rfl, solid, opens⟩ := spells.start
  obtain ⟨fuel, rfl⟩ := Nat.exists_eq_add_of_le' (by omega : 2 ≤ fuel)
  have read := spells.readItem ends fuel [] rest (by omega)
  rw [List.append_assoc, List.append_assoc, List.cons_append]
  unfold readValue
  rw [skip_solid (by decide)]
  simp only [readItems_first blank solid opens]
  exact read

theorem spells_list_nil : Spells (.list []) "[]".toList := by
  refine .opened (by decide) (by decide) fun fuel rest enough _ => ?_
  obtain ⟨fuel, rfl⟩ := Nat.exists_eq_add_one_of_ne_zero (Nat.ne_of_gt (Nat.zero_lt_of_lt enough))
  rfl

/-! ## Objects -/

/-- A member: its name, a colon and the text of its value after some white space. -/
def memberText (name : String) (gap t : List Char) : List Char :=
  '"' :: (name.toList.flatMap escapedChar ++ '"' :: ':' :: (gap ++ t))

theorem memberText_append (name : String) (gap t rest : List Char) :
    memberText name gap t ++ rest = memberText name gap (t ++ rest) := by
  simp [memberText]

theorem length_le_memberText (name : String) (gap t : List Char) :
    t.length ≤ (memberText name gap t).length := by
  simp only [memberText, List.length_cons, List.length_append]
  omega

section Objects

variable {fuel : Nat}

theorem readMembers_close (blank : Blank gap) (members : List (String × Json)) (rest : List Char) :
    readMembers (fuel + 1) members (gap ++ '\x7d' :: rest)
      = (.object members.reverse, some rest) := by
  unfold readMembers
  rw [skip_blank blank, skip_solid (by decide)]
  cases members with
  | nil => rfl
  | cons member before => rfl

theorem readMembers_first (blank : Blank gap) (s : List Char) :
    readMembers (fuel + 1) [] (gap ++ '"' :: s) = readMember fuel [] ('"' :: s) := by
  unfold readMembers
  rw [skip_blank blank, skip_solid (by decide)]
  simp

theorem readMembers_next (blank : Blank gap) (member : String × Json)
    (before : List (String × Json)) (s : List Char) :
    readMembers (fuel + 1) (member :: before) (',' :: (gap ++ '"' :: s))
      = readMember fuel (member :: before) ('"' :: s) := by
  unfold readMembers
  rw [skip_solid (by decide)]
  simp [skip_blank blank, skip_solid (c := '"') (by decide)]

/-- White space before a value is passed over. -/
theorem readValue_blank (blank : Blank gap) (s : List Char) :
    readValue fuel (gap ++ s) = readValue fuel s := by
  cases fuel with
  | zero => rfl
  | succ fuel =>
      unfold readValue
      rw [skip_blank blank]

end Objects

/-- A text is read as the rest of an object, from behind a member up to the brace. -/
structure EndsObject (members : List (String × Json)) (s : List Char) : Prop where
  stops : ∀ rest, Stops (s ++ rest)
  read : ∀ fuel member before rest, 3 * s.length < fuel →
    readMembers fuel (member :: before) (s ++ rest)
      = (.object ((member :: before).reverse ++ members), some rest)

variable {members : List (String × Json)} {colonGap : List Char}

theorem endsObject_nil (blank : Blank gap) : EndsObject [] (gap ++ ['\x7d']) := by
  refine ⟨fun rest => ?_, fun fuel member before rest enough => ?_⟩
  · rw [List.append_assoc]
    exact .blank blank (stops_cons (by decide) _)
  · obtain ⟨fuel, rfl⟩ := Nat.exists_eq_add_one_of_ne_zero (Nat.ne_of_gt (Nat.zero_lt_of_lt enough))
    rw [List.append_assoc, List.singleton_append, readMembers_close blank, List.append_nil]

/-- A member and the rest of the object are read behind the members before. -/
theorem Spells.readMember (name : String) (colon : Blank colonGap) (spells : Spells j t)
    (ends : EndsObject members s) (fuel : Nat) (before : List (String × Json)) (rest : List Char)
    (enough : 3 * (t ++ s).length < fuel) :
    readMember (fuel + 1) before (memberText name colonGap (t ++ (s ++ rest)))
      = (.object (before.reverse ++ (name, j) :: members), some rest) := by
  rw [List.length_append] at enough
  rw [memberText, Json.readMember]
  simp only [readString_stringText, skip_solid (c := ':') (by decide)]
  rw [readValue_blank colon, spells.read fuel _ (by omega) (ends.stops rest)]
  dsimp only
  rw [ends.read fuel _ before rest (by omega), List.reverse_cons, List.append_assoc,
    List.singleton_append]

theorem EndsObject.cons (blank : Blank gap) (name : String) (colon : Blank colonGap)
    (spells : Spells j t) (ends : EndsObject members s) :
    EndsObject ((name, j) :: members) (',' :: (gap ++ memberText name colonGap (t ++ s))) := by
  refine ⟨fun rest => stops_cons (by decide) _, fun fuel member before rest enough => ?_⟩
  have long := length_le_memberText name colonGap (t ++ s)
  rw [List.length_cons, List.length_append] at enough
  obtain ⟨fuel, rfl⟩ := Nat.exists_eq_add_of_le' (by omega : 2 ≤ fuel)
  have read := spells.readMember name colon ends fuel (member :: before) rest (by omega)
  rw [List.cons_append, List.append_assoc, memberText_append, List.append_assoc, memberText,
    readMembers_next blank]
  exact read

/-- **An object is spelled by its first member and the rest of it.** -/
theorem Spells.object_cons (blank : Blank gap) (name : String) (colon : Blank colonGap)
    (spells : Spells j t) (ends : EndsObject members s) :
    Spells (.object ((name, j) :: members))
      ('\x7b' :: (gap ++ memberText name colonGap (t ++ s))) := by
  refine .opened (by decide) (by decide) fun fuel rest enough _ => ?_
  have long := length_le_memberText name colonGap (t ++ s)
  rw [List.length_append] at enough
  obtain ⟨fuel, rfl⟩ := Nat.exists_eq_add_of_le' (by omega : 2 ≤ fuel)
  have read := spells.readMember name colon ends fuel [] rest (by omega)
  rw [List.append_assoc, memberText_append, List.append_assoc, memberText]
  unfold readValue
  rw [skip_solid (by decide)]
  simp only [readMembers_first blank]
  exact read

theorem spells_object_nil : Spells (.object []) "\x7b\x7d".toList := by
  refine .opened (by decide) (by decide) fun fuel rest enough _ => ?_
  obtain ⟨fuel, rfl⟩ := Nat.exists_eq_add_one_of_ne_zero (Nat.ne_of_gt (Nat.zero_lt_of_lt enough))
  rfl

/-! ## Values without white space -/

/-- The items after the first, each behind a comma. -/
theorem endsList_compact {items : List Json} (each : ∀ j ∈ items, Spells j (compact j).toList) :
    EndsList items (items.flatMap (fun j => ',' :: (compact j).toList) ++ [']']) := by
  induction items with
  | nil => exact endsList_nil blank_nil
  | cons j items ih =>
      obtain ⟨first, others⟩ := List.forall_mem_cons.1 each
      have rest := EndsList.cons blank_nil first (ih others)
      rw [List.nil_append] at rest
      rw [List.flatMap_cons, List.cons_append, List.cons_append, List.append_assoc]
      exact rest

theorem toList_compactItems (j : Json) (items : List Json) :
    (compactItems (j :: items)).toList
      = (compact j).toList ++ items.flatMap fun j => ',' :: (compact j).toList := by
  induction items generalizing j with
  | nil => simp [compactItems]
  | cons next items ih => simp [compactItems, ih]

/-- The members after the first, each behind a comma. -/
theorem endsObject_compact {members : List (String × Json)}
    (each : ∀ m ∈ members, Spells m.2 (compact m.2).toList) :
    EndsObject members
      (members.flatMap (fun m => ',' :: memberText m.1 [] (compact m.2).toList) ++ ['\x7d']) := by
  induction members with
  | nil => exact endsObject_nil blank_nil
  | cons member members ih =>
      obtain ⟨first, others⟩ := List.forall_mem_cons.1 each
      have rest := EndsObject.cons blank_nil member.1 blank_nil first (ih others)
      rw [List.nil_append, ← memberText_append] at rest
      rw [List.flatMap_cons, List.cons_append, List.cons_append, List.append_assoc]
      exact rest

theorem toList_compactMembers (member : String × Json) (members : List (String × Json)) :
    (compactMembers (member :: members)).toList
      = memberText member.1 [] (compact member.2).toList
        ++ members.flatMap fun m => ',' :: memberText m.1 [] (compact m.2).toList := by
  induction members generalizing member with
  | nil => simp [compactMembers, memberText, toList_stringText]
  | cons next members ih => simp [compactMembers, memberText, toList_stringText, ih]

/-- **What is printed without white space spells the value.** -/
theorem spells_compact {j : Json} (faultless : Faultless j) : Spells j (compact j).toList := by
  induction faultless with
  | null => exact spells_null
  | bool value => exact spells_bool value
  | number value => exact spells_number value
  | string value => exact spells_string value
  | @list items each ih =>
      cases items with
      | nil => exact spells_list_nil
      | cons j items =>
          obtain ⟨first, others⟩ := List.forall_mem_cons.1 ih
          have spells := Spells.list_cons blank_nil first (endsList_compact others)
          rw [List.nil_append, ← List.append_assoc, ← toList_compactItems] at spells
          simpa [compact] using spells
  | @object members each ih =>
      cases members with
      | nil => exact spells_object_nil
      | cons member members =>
          obtain ⟨first, others⟩ := List.forall_mem_cons.1 ih
          have spells := Spells.object_cons blank_nil member.1 blank_nil first
            (endsObject_compact others)
          rw [List.nil_append, ← memberText_append, ← List.append_assoc,
            ← toList_compactMembers] at spells
          simpa [compact] using spells

/-! ## Values over several lines -/

theorem blank_newLine (depth : Nat) : Blank (newLine depth).toList := by
  intro c inside
  simp only [newLine, String.toList_append, String.toList_ofList, List.mem_append,
    List.mem_replicate] at inside
  rcases inside with feed | ⟨-, rfl⟩
  · rw [List.mem_singleton.1 feed]
    decide
  · decide

/-- The items after the first, each on a line of its own. -/
theorem endsList_pretty (depth : Nat) {items : List Json}
    (each : ∀ j ∈ items, ∀ depth, Spells j (prettyAt depth j).toList) {s : List Char}
    (ends : EndsList [] s) : EndsList items ((prettyItems depth items).toList ++ s) := by
  induction items with
  | nil => exact ends
  | cons j items ih =>
      obtain ⟨first, others⟩ := List.forall_mem_cons.1 each
      have rest := EndsList.cons (blank_newLine depth) (first depth) (ih others)
      simpa [prettyItems] using rest

/-- The members after the first, each on a line of its own. -/
theorem endsObject_pretty (depth : Nat) {members : List (String × Json)}
    (each : ∀ m ∈ members, ∀ depth, Spells m.2 (prettyAt depth m.2).toList) {s : List Char}
    (ends : EndsObject [] s) : EndsObject members ((prettyMembers depth members).toList ++ s) := by
  induction members with
  | nil => exact ends
  | cons member members ih =>
      obtain ⟨first, others⟩ := List.forall_mem_cons.1 each
      have rest := EndsObject.cons (blank_newLine depth) member.1 blank_space (first depth)
        (ih others)
      simpa [prettyMembers, memberText, toList_stringText] using rest

/-- **What is printed over several lines spells the value.** -/
theorem spells_prettyAt {j : Json} (faultless : Faultless j) :
    ∀ depth, Spells j (prettyAt depth j).toList := by
  induction faultless with
  | null => exact fun _ => spells_null
  | bool value => exact fun _ => spells_bool value
  | number value => exact fun _ => spells_number value
  | string value => exact fun _ => spells_string value
  | @list items each ih =>
      intro depth
      cases items with
      | nil => exact spells_list_nil
      | cons j items =>
          obtain ⟨first, others⟩ := List.forall_mem_cons.1 ih
          have ends := endsList_nil (blank_newLine depth)
          have spells := Spells.list_cons (blank_newLine (depth + 1)) (first (depth + 1))
            (endsList_pretty (depth + 1) others ends)
          simpa [prettyAt] using spells
  | @object members each ih =>
      intro depth
      cases members with
      | nil => exact spells_object_nil
      | cons member members =>
          obtain ⟨first, others⟩ := List.forall_mem_cons.1 ih
          have ends := endsObject_nil (blank_newLine depth)
          have spells := Spells.object_cons (blank_newLine (depth + 1)) member.1 blank_space
            (first (depth + 1)) (endsObject_pretty (depth + 1) others ends)
          simpa [prettyAt, memberText, toList_stringText] using spells

/-! ## Texts -/

/-- A text that spells a value says it, and nothing behind it. -/
theorem Spells.ofText {j : Json} {s : String} (spells : Spells j s.toList) :
    ofText s = (j, none) := by
  have read := spells.read (3 * s.toList.length + 3) [] (by omega) stops_nil
  rw [List.append_nil] at read
  unfold Json.ofText
  dsimp only
  rw [read]
  rfl

/-- **A value is read back from its text**, with white space and without. -/
theorem ofText_print {j : Json} (faultless : Faultless j) :
    ofText (pretty j) = (j, none) ∧ ofText (compact j) = (j, none) :=
  ⟨(spells_prettyAt faultless 0).ofText, (spells_compact faultless).ofText⟩

end PromptPipeline.Json
