/-
# Proofs.Name.Derived -- the names that titles and sources get

A title in kebab case is its runs of letters and numbers in lower case with a hyphen between
neighbours (`kebabChars_of_runs`).  One pass makes it that writes a hyphen only when a letter
follows; a pass that looks at what it has written and takes hyphens off at the end makes the
same (`kebabChars_eq_foldl`).

The name of a source has the longest start of this name that fits into 48 bytes and has no
hyphen at its end (`Fits.prefix_shortened`).  What fits ends at the last of these bytes that is
between two characters (`isGreatest_cut`), and that is one of the last four
(`lt_byteLength_takeBytes`).
-/
import PromptPipeline.Directive.Knowledge
import PromptPipeline.Proofs.Markdown.Lines
import PromptPipeline.Proofs.Name.Recased
import PromptPipeline.Proofs.Text.Split
import PromptPipeline.Proofs.Text.Trim
import Mathlib.Data.String.Basic
import Mathlib.Order.Bounds.Defs

namespace PromptPipeline

set_option autoImplicit false

open Unicode (isAlphanumeric toLower)

variable {s t rest run gap : List Char} {runs : List (List Char)} {c : Char}

/-! ## Runs in lower case -/

namespace Name

theorem kebabRest_gap (separates : ∀ c ∈ gap, isAlphanumeric c = false) (rest : List Char) :
    kebabRest true (gap ++ rest) = kebabRest true rest := by
  induction gap with
  | nil => rfl
  | cons c gap ih =>
      obtain ⟨first, others⟩ := List.forall_mem_cons.1 separates
      rw [List.cons_append, kebabRest, if_neg (Bool.eq_false_iff.1 first), ih others]

theorem kebabRest_run (letters : ∀ c ∈ run, isAlphanumeric c = true) (rest : List Char) :
    kebabRest false (run ++ rest) = run.flatMap toLower ++ kebabRest false rest := by
  induction run with
  | nil => rfl
  | cons c run ih =>
      obtain ⟨first, others⟩ := List.forall_mem_cons.1 letters
      rw [List.cons_append, kebabRest, if_pos first, ih others, List.flatMap_cons]
      simp

/-- Before a character that is dropped it makes no difference whether one was dropped before. -/
theorem kebabRest_ends (ends : ∀ c ∈ s.head?, isAlphanumeric c = false) :
    kebabRest false s = kebabRest true s := by
  cases s with
  | nil => rfl
  | cons c s =>
      have first := Bool.eq_false_iff.1 (ends c rfl)
      rw [kebabRest, kebabRest, if_neg first, if_neg first]

/-- The first run is opened without a hyphen, and any other one with one. -/
theorem kebab_run (filled : run ≠ []) (letters : ∀ c ∈ run, isAlphanumeric c = true)
    (rest : List Char) :
    kebabRest true (run ++ rest) = '-' :: (run.flatMap toLower ++ kebabRest false rest)
      ∧ kebabChars (run ++ rest) = run.flatMap toLower ++ kebabRest false rest := by
  obtain ⟨c, run, rfl⟩ := List.exists_cons_of_ne_nil filled
  obtain ⟨first, others⟩ := List.forall_mem_cons.1 letters
  rw [List.cons_append, kebabRest, kebabChars, if_pos first, if_pos first,
    kebabRest_run others, List.flatMap_cons]
  simp

theorem kebabRest_of_runs (standing : Text.Runs (!isAlphanumeric ·) s runs) :
    kebabRest true s = runs.flatMap fun run => '-' :: run.flatMap toLower := by
  induction standing with
  | @none gap separates =>
      have dropped := kebabRest_gap (by simpa using separates) []
      rwa [List.append_nil] at dropped
  | @some gap run rest runs separates filled stays ends more ih =>
      rw [List.append_assoc, kebabRest_gap (by simpa using separates),
        (kebab_run filled (by simpa using stays) rest).1, kebabRest_ends (by simpa using ends), ih]
      rfl

theorem kebabChars_gap (separates : ∀ c ∈ gap, isAlphanumeric c = false) (rest : List Char) :
    kebabChars (gap ++ rest) = kebabChars rest := by
  induction gap with
  | nil => rfl
  | cons c gap ih =>
      obtain ⟨first, others⟩ := List.forall_mem_cons.1 separates
      rw [List.cons_append, kebabChars, if_neg (Bool.eq_false_iff.1 first), ih others]

/-- **Kebab case is the runs in lower case with a hyphen between neighbours.** -/
theorem kebabChars_of_runs (standing : Text.Runs (!isAlphanumeric ·) s runs) :
    kebabChars s = Text.joinWith ['-'] (runs.map (·.flatMap toLower)) := by
  cases standing with
  | none separates =>
      have dropped := kebabChars_gap (by simpa using separates) []
      rwa [List.append_nil] at dropped
  | @some gap run rest runs separates filled stays ends more =>
      rw [List.append_assoc, kebabChars_gap (by simpa using separates),
        (kebab_run filled (by simpa using stays) rest).2, kebabRest_ends (by simpa using ends),
        kebabRest_of_runs more, List.map_cons, Text.joinWith_cons_flatMap, List.flatMap_map]
      rfl

/-! ## Looking at what is written -/

/-- One more character of a title: a letter or number is written in lower case, and for another
character a hyphen, unless nothing or a hyphen was written last. -/
def kebabStep (name : List Char) (c : Char) : List Char :=
  if isAlphanumeric c then name ++ toLower c
  else if name.getLast?.all (· == '-') then name
  else name ++ ['-']

theorem kebabStep_letter (letter : isAlphanumeric c = true) (name : List Char) :
    kebabStep name c = name ++ toLower c := if_pos letter

theorem kebabStep_other (other : isAlphanumeric c = false) {name : List Char} {d : Char}
    (last : name.getLast? = some d) :
    kebabStep name c = if d = '-' then name else name ++ ['-'] := by
  simp [kebabStep, other, last]

/-- Behind a letter or number no hyphen is written last. -/
theorem exists_last_toLower (before : List Char) (letter : isAlphanumeric c = true) :
    ∃ e, (before ++ toLower c).getLast? = some e ∧ e ≠ '-' := by
  rw [List.getLast?_append_of_ne_nil _ (Unicode.toLower_ne_nil c),
    List.getLast?_eq_some_getLast (Unicode.toLower_ne_nil c)]
  exact ⟨_, rfl, ne_hyphen_of_mem_toLower letter (List.getLast_mem _)⟩

/-- A name that is written ends in a letter or number, or in one hyphen behind that, which stays
if another letter or number comes. -/
theorem dropTrailing_foldl_kebabStep {name : List Char} {d : Char}
    (last : name.getLast? = some d) (solid : d ≠ '-') (s : List Char) :
    Text.dropTrailing (· == '-') (s.foldl kebabStep name) = name ++ kebabRest false s
      ∧ Text.dropTrailing (· == '-') (s.foldl kebabStep (name ++ ['-']))
        = name ++ kebabRest true s := by
  induction s generalizing name d with
  | nil =>
      have stays : Text.dropTrailing (· == '-') name = name := by
        refine Text.dropTrailing_of_last fun e ends => ?_
        rw [last] at ends
        obtain rfl := Option.some.inj ends
        simpa using solid
      have goes : Text.dropTrailing (· == '-') (name ++ ['-'])
          = Text.dropTrailing (· == '-') name := by
        simp [Text.dropTrailing]
      simp [kebabRest, goes, stays]
  | cons c s ih =>
      have hyphen : (name ++ ['-']).getLast? = some '-' := List.getLast?_concat ..
      rw [List.foldl_cons, List.foldl_cons, kebabRest, kebabRest]
      cases letter : isAlphanumeric c with
      | true =>
          -- The hyphen that was written stays: it is one more character of the name before.
          obtain ⟨e, last, solid⟩ := exists_last_toLower name letter
          obtain ⟨e', last', solid'⟩ := exists_last_toLower (name ++ ['-']) letter
          rw [kebabStep_letter letter, kebabStep_letter letter, (ih last solid).1,
            (ih last' solid').1]
          simp
      | false =>
          rw [kebabStep_other letter last, kebabStep_other letter hyphen, if_neg solid,
            if_pos rfl, (ih last solid).2]
          simp

/-- **A pass that looks at what it has written makes the same name.** -/
theorem kebabChars_eq_foldl (s : List Char) :
    kebabChars s = Text.dropTrailing (· == '-') (s.foldl kebabStep []) := by
  induction s with
  | nil => rfl
  | cons c s ih =>
      rw [List.foldl_cons, kebabChars]
      cases letter : isAlphanumeric c with
      | true =>
          obtain ⟨e, last, solid⟩ := exists_last_toLower [] letter
          rw [kebabStep_letter letter, (dropTrailing_foldl_kebabStep last solid s).1]
          rfl
      | false =>
          have same : kebabStep [] c = [] := by simp [kebabStep, letter]
          rw [same, ← ih]
          rfl

end Name

/-! ## Bytes -/

namespace Text

theorem byteLength_eq_utf8Len (s : List Char) : byteLength s = String.utf8Len s := by
  induction s with
  | nil => rfl
  | cons c s ih => rw [byteLength_cons, ih, String.utf8Len_cons, Nat.add_comm]

theorem utf8ByteSize_eq (s : String) : s.utf8ByteSize = byteLength s.toList := by
  rw [byteLength_eq_utf8Len, ← String.utf8ByteSize_ofList, String.ofList_toList]

/-- The bytes between characters are those at which a start of the text ends. -/
theorem isValid_iff (s : String) (n : Nat) :
    (⟨n⟩ : String.Pos.Raw).IsValid s ↔ ∃ q, q <+: s.toList ∧ byteLength q = n := by
  rw [String.Pos.Raw.isValid_iff_exists_append]
  constructor
  · rintro ⟨a, b, rfl, ends⟩
    refine ⟨a.toList, ⟨b.toList, String.toList_append.symm⟩, ?_⟩
    rw [← utf8ByteSize_eq]
    exact (congrArg String.Pos.Raw.byteIdx ends).symm
  · rintro ⟨q, ⟨rest, whole⟩, rfl⟩
    refine ⟨String.ofList q, String.ofList rest, ?_, ?_⟩
    · rw [← String.ofList_append, whole, String.ofList_toList]
    · rw [byteLength_eq_utf8Len, ← String.utf8ByteSize_ofList]
      rfl

/-- A start of the text that ends in no character of a kind is kept when those at the end go. -/
theorem prefix_dropTrailing {p : Char → Bool} {q s : List Char} (start : q <+: s)
    (last : ∀ c ∈ q.getLast?, p c = false) : q <+: dropTrailing p s := by
  obtain ⟨rest, rfl⟩ := start
  rw [dropTrailing, List.reverse_append, List.dropWhile_append]
  split
  · have kept : dropTrailing p q = q := dropTrailing_of_last last
    exact ⟨[], by rw [← dropTrailing, kept, List.append_nil]⟩
  · rw [List.reverse_append, List.reverse_reverse]
    exact List.prefix_append _ _

/-- The characters that are taken off at the end are all one. -/
theorem exists_dropTrailing_append (d : Char) (s : List Char) :
    ∃ n, s = dropTrailing (· == d) s ++ List.replicate n d := by
  have alike : s.reverse.takeWhile (· == d)
      = List.replicate (s.reverse.takeWhile (· == d)).length d := by
    refine List.eq_replicate_iff.2 ⟨rfl, fun c member => ?_⟩
    have same := List.all_eq_true.1 List.all_takeWhile c member
    simpa using same
  refine ⟨(s.reverse.takeWhile (· == d)).length, ?_⟩
  calc s = (s.reverse.takeWhile (· == d) ++ s.reverse.dropWhile (· == d)).reverse := by
        rw [List.takeWhile_append_dropWhile, List.reverse_reverse]
    _ = dropTrailing (· == d) s ++ (s.reverse.takeWhile (· == d)).reverse := by
        rw [List.reverse_append, dropTrailing]
    _ = _ := by
        conv_lhs => rw [alike, List.reverse_replicate]

/-- The text up to a byte at which a start of it ends. -/
theorem extract_of_prefix {name : String} {q : List Char} (start : q <+: name.toList) :
    String.Pos.Raw.extract name 0 ⟨byteLength q⟩ = String.ofList q := by
  obtain ⟨rest, whole⟩ := start
  have cut := String.extract_of_valid [] q rest
  rw [List.nil_append, whole, String.ofList_toList, String.utf8Len_nil, Nat.zero_add,
    ← byteLength_eq_utf8Len] at cut
  exact cut

end Text

namespace Directive.Knowledge

/-! ## What fits -/

theorem takeBytes_cons (room : Nat) (c : Char) (s : List Char) :
    takeBytes room (c :: s)
      = if c.utf8Size ≤ room then c :: takeBytes (room - c.utf8Size) s else [] := rfl

theorem takeBytes_isPrefix (room : Nat) (s : List Char) : takeBytes room s <+: s := by
  induction s generalizing room with
  | nil => exact List.nil_prefix
  | cons c s ih =>
      rw [takeBytes_cons]
      split
      · exact (List.prefix_cons_inj c).2 (ih _)
      · exact List.nil_prefix

theorem byteLength_takeBytes_le (room : Nat) (s : List Char) :
    Text.byteLength (takeBytes room s) ≤ room := by
  induction s generalizing room with
  | nil => exact Nat.zero_le _
  | cons c s ih =>
      rw [takeBytes_cons]
      split
      · have rest := ih (room - c.utf8Size)
        rw [Text.byteLength_cons]
        omega
      · exact Nat.zero_le _

/-- **What fits is the longest start that does.** -/
theorem prefix_takeBytes {q : List Char} {room : Nat} (start : q <+: s)
    (fits : Text.byteLength q ≤ room) : q <+: takeBytes room s := by
  induction s generalizing q room with
  | nil => exact start
  | cons c s ih =>
      cases q with
      | nil => exact List.nil_prefix
      | cons d q =>
          obtain ⟨rfl, further⟩ := List.cons_prefix_cons.1 start
          rw [Text.byteLength_cons] at fits
          rw [takeBytes_cons, if_pos (by omega)]
          exact (List.prefix_cons_inj d).2 (ih further (by omega))

/-- At most three bytes of the room are left when a text does not fit. -/
theorem lt_byteLength_takeBytes {room : Nat} (large : room < Text.byteLength s) :
    room < Text.byteLength (takeBytes room s) + 4 := by
  induction s generalizing room with
  | nil => cases large
  | cons c s ih =>
      rw [Text.byteLength_cons] at large
      rw [takeBytes_cons]
      split
      · have less : room - c.utf8Size < Text.byteLength s := by omega
        have rest := ih less
        rw [Text.byteLength_cons]
        omega
      · have four := c.utf8Size_le_four
        rw [Text.byteLength_nil]
        omega

/-- **A text is cut at the last byte that fits and is between two characters.** -/
theorem isGreatest_cut (room : Nat) (name : String) :
    IsGreatest {n | n ≤ room ∧ (⟨n⟩ : String.Pos.Raw).IsValid name}
      (Text.byteLength (takeBytes room name.toList)) := by
  constructor
  · exact ⟨byteLength_takeBytes_le _ _, (Text.isValid_iff _ _).2 ⟨_, takeBytes_isPrefix _ _, rfl⟩⟩
  · rintro n ⟨fits, valid⟩
    obtain ⟨q, start, rfl⟩ := (Text.isValid_iff _ _).1 valid
    obtain ⟨rest, is⟩ := prefix_takeBytes start fits
    rw [← is, Text.byteLength_append]
    omega

/-! ## Names of sources -/

/-- What can stand in the name of a source: a start of a name in kebab case of at most 48 bytes
that does not end in a hyphen. -/
structure Fits (name q : String) : Prop where
  start : q.toList <+: name.toList
  bytes : q.utf8ByteSize ≤ 48
  last : ∀ c ∈ q.toList.getLast?, c ≠ '-'

/-- The start of a name that stands in the name of a source. -/
def shortened (name : String) : String :=
  String.ofList (Text.dropTrailing (· == '-') (takeBytes 48 name.toList))

theorem fits_shortened (name : String) : Fits name (shortened name) := by
  have kept := Text.dropTrailing_prefix (p := (· == '-')) (takeBytes 48 name.toList)
  refine ⟨?_, ?_, ?_⟩
  · rw [shortened, String.toList_ofList]
    exact kept.trans (takeBytes_isPrefix _ _)
  · obtain ⟨rest, is⟩ := kept
    have fits := byteLength_takeBytes_le 48 name.toList
    rw [← is, Text.byteLength_append] at fits
    rw [shortened, Text.utf8ByteSize_eq, String.toList_ofList]
    omega
  · rw [shortened, String.toList_ofList]
    intro c ends
    simpa using Text.dropTrailing_last _ c ends

/-- **No longer start of a name fits.** -/
theorem Fits.prefix_shortened {name q : String} (fits : Fits name q) :
    q.toList <+: (shortened name).toList := by
  have bytes := fits.bytes
  rw [Text.utf8ByteSize_eq] at bytes
  rw [shortened, String.toList_ofList]
  refine Text.prefix_dropTrailing (prefix_takeBytes fits.start bytes) fun c ends => ?_
  simpa using fits.last c ends

/-- The first character of a name always fits. -/
theorem shortened_ne_empty {name : String} (kebab : Name.IsKebab name.toList) (filled : name ≠ "") :
    shortened name ≠ "" := by
  cases chars : name.toList with
  | nil => exact absurd (String.toList_eq_nil_iff.1 chars) filled
  | cons c rest =>
      have fits : Fits name (String.ofList [c]) := by
        refine ⟨?_, ?_, ?_⟩
        · rw [String.toList_ofList, chars]
          exact List.prefix_append [c] rest
        · have four := c.utf8Size_le_four
          rw [Text.utf8ByteSize_eq, String.toList_ofList, Text.byteLength_cons,
            Text.byteLength_nil]
          omega
        · rw [String.toList_ofList]
          rintro d ends
          obtain rfl := Option.some.inj ends
          exact kebab.first c (by rw [chars]; rfl)
      have first := fits.prefix_shortened
      rintro none
      rw [none, String.toList_ofList] at first
      exact absurd first (by simp)

theorem toList_kebab (text : String) :
    (Name.kebab text).toList = Name.kebabChars text.toList := String.toList_ofList

theorem sourceName_of_le {text : String} (fits : (Name.kebab text).utf8ByteSize ≤ 48) :
    sourceName text = "source-" ++ Name.kebab text := by
  rw [Text.utf8ByteSize_eq, toList_kebab] at fits
  have whole : ¬longestName < Text.byteLength (Name.kebabChars text.toList) := Nat.not_lt.2 fits
  unfold sourceName
  dsimp only
  rw [if_neg whole, String.ofList_append, String.ofList_toList]
  rfl

theorem sourceName_of_lt {text : String} (large : 48 < (Name.kebab text).utf8ByteSize) :
    sourceName text = "source-" ++ shortened (Name.kebab text) := by
  rw [Text.utf8ByteSize_eq, toList_kebab] at large
  have long : longestName < Text.byteLength (Name.kebabChars text.toList) := large
  unfold sourceName shortened
  dsimp only
  rw [if_pos long, String.ofList_append, String.ofList_toList, toList_kebab]
  rfl

/-- **The names that are derived from a text.** -/
theorem derived_names (text : String) :
    (∃ runs, Text.Runs (!isAlphanumeric ·) text.toList runs
        ∧ Name.kebab text
          = Text.join "-" (runs.map fun run => String.ofList (run.flatMap toLower)))
      ∧ (Name.kebab text).toList
        = Text.dropTrailing (· == '-') (text.toList.foldl Name.kebabStep [])
      ∧ ((Name.kebab text).utf8ByteSize ≤ 48 → sourceName text = "source-" ++ Name.kebab text)
      ∧ (48 < (Name.kebab text).utf8ByteSize →
          ∃ (cut hyphens : Nat) (short : String),
            IsGreatest {n | n ≤ 48 ∧ (⟨n⟩ : String.Pos.Raw).IsValid (Name.kebab text)} cut
              ∧ 45 ≤ cut
              ∧ String.Pos.Raw.extract (Name.kebab text) 0 ⟨cut⟩
                = short ++ String.ofList (List.replicate hyphens '-')
              ∧ Fits (Name.kebab text) short
              ∧ (∀ q, Fits (Name.kebab text) q → q.toList <+: short.toList)
              ∧ short ≠ ""
              ∧ sourceName text = "source-" ++ short) := by
  refine ⟨⟨_, Text.runs_runsBetween _ _, ?_⟩, ?_, sourceName_of_le, fun large => ?_⟩
  · rw [Name.kebab, Name.kebabChars_of_runs (Text.runs_runsBetween _ _), Text.join, List.map_map]
    simp [Function.comp_def]
  · rw [toList_kebab, Name.kebabChars_eq_foldl]
  · obtain ⟨hyphens, cut⟩ :=
      Text.exists_dropTrailing_append '-' (takeBytes 48 (Name.kebab text).toList)
    have filled : Name.kebab text ≠ "" := by
      rintro empty
      rw [empty] at large
      exact absurd large (by decide)
    have early : 48 < Text.byteLength (takeBytes 48 (Name.kebab text).toList) + 4 :=
      lt_byteLength_takeBytes (by rwa [← Text.utf8ByteSize_eq])
    refine ⟨_, hyphens, shortened (Name.kebab text), isGreatest_cut 48 _, by omega, ?_,
      fits_shortened _, fun q => Fits.prefix_shortened,
      shortened_ne_empty (Name.isKebab_kebab text) filled, sourceName_of_lt large⟩
    rw [Text.extract_of_prefix (takeBytes_isPrefix _ _), shortened, ← String.ofList_append, ← cut]

/-- A name of 50 bytes with a letter of two bytes at the 48th and a hyphen before that. -/
theorem derived_names_accent :
    let text := String.ofList (List.replicate 46 'A' ++ [' ', 'É', '!', 'a'])
    48 < (Name.kebab text).utf8ByteSize
      ∧ (∃ short, Fits (Name.kebab text) short
        ∧ (∀ q, Fits (Name.kebab text) q → q.toList <+: short.toList)
        ∧ sourceName text = "source-" ++ short)
      ∧ sourceName text = String.ofList ("source-".toList ++ List.replicate 46 'a') := by
  intro text
  have large : 48 < (Name.kebab text).utf8ByteSize := by decide +kernel
  obtain ⟨-, -, short, -, -, -, fits, longest, -, named⟩ := (derived_names text).2.2.2 large
  exact ⟨large, ⟨short, fits, longest, named⟩, by decide +kernel⟩

end Directive.Knowledge

end PromptPipeline
