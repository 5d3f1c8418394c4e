/-
# Proofs.Grammar.Lexemes -- what the tokens of a line are made of

The backticks of a line cut it into pieces of which every other one is quoted.
`tokens_of_line` says of every line:

* its tokens have text and no backtick, and together they are the line without its backticks
  and without the blanks outside of quotes (`flatMap_scan`), so nothing else of it is lost,
  told twice or told out of order;
* the bytes at which they start ascend, and at each of them a character starts that is not
  blank (`offset_lt`, `get?_offset`), so the source of an argument is cut out of the line
  without splitting a character (`sourceFrom_argumentsOf`);
* texts that stand between backticks each are the tokens of their line, whatever else they
  have in them (`texts_scan_quoted`).
-/
import PromptPipeline.Proofs.Grammar.Arguments
import PromptPipeline.Proofs.Text.Split
import Mathlib.Data.String.Basic

namespace PromptPipeline.Grammar.Token

set_option autoImplicit false

open Unicode (isBlank)

variable {position start : Nat} {inQuotes : Bool} {current : Open} {s text : List Char}
  {t u : Token} {line : String}

/-! ## Nothing is lost -/

/-- The characters of the pieces between backticks that belong to tokens: of every other piece
all, of those between them all that are not blank. -/
def kept : Bool → List (List Char) → List Char
  | _, [] => []
  | inQuotes, piece :: pieces =>
      (if inQuotes then piece else piece.filter (!isBlank ·)) ++ kept (!inQuotes) pieces

theorem flatMap_close (current : Open) :
    (close current).flatMap (·.text.toList) = pending current := by
  rcases current with _ | ⟨start, _ | ⟨c, text⟩⟩
  · rfl
  · rfl
  · simp [close, pending]

/-- **The tokens together are what is kept of a line.** -/
theorem flatMap_scan (position : Nat) (inQuotes : Bool) (current : Open) (s : List Char) :
    (scan position inQuotes current s).flatMap (·.text.toList)
      = pending current ++ kept inQuotes (Text.splitAt (· == '`') s) := by
  induction s generalizing position inQuotes current with
  | nil => cases inQuotes <;> simp [scan, flatMap_close, Text.splitAt, kept]
  | cons c s ih =>
      obtain ⟨piece, pieces, is, cut⟩ := Text.splitAt_cons (· == '`') c s
      rw [cut]
      rcases scan_cons position inQuotes current c s with
        ⟨rfl, next⟩ | ⟨blank, rfl, next⟩ | ⟨noTick, solid, next⟩
      · rw [next, ih, is]
        cases inQuotes <;> simp [kept, pending]
      · have noTick : c ≠ '`' := by
          rintro rfl
          exact absurd blank (by decide)
        rw [next, List.flatMap_append, flatMap_close, ih, is]
        simp [kept, pending, noTick, blank]
      · rw [next, ih, is]
        cases inQuotes with
        | true => simp [kept, pending, noTick]
        | false => simp [kept, pending, noTick, solid rfl]

/-! ## Where tokens start -/

/-- The byte of a line at which a token starts. -/
def offset (line : String) (t : Token) : Nat :=
  (String.ofList (line.toList.take t.start)).utf8ByteSize

theorem utf8Len_take (line : String) (t : Token) :
    String.utf8Len (line.toList.take t.start) = t.offset line :=
  (String.utf8ByteSize_ofList _).symm

/-- A token starts at a character of its line that is not blank. -/
theorem exists_char_of_mem (member : t ∈ ofLine line) :
    ∃ c, (line.toList.drop t.start).head? = some c ∧ isBlank c = false := by
  obtain ⟨before, after, split⟩ := List.append_of_mem member
  obtain ⟨again, solid⟩ := restart (s := line.toList) split
  cases rest : line.toList.drop t.start with
  | nil =>
      rw [rest] at again
      cases again
  | cons c rest' => exact ⟨c, rfl, solid c (by rw [rest]; rfl)⟩

theorem start_lt_length (member : t ∈ ofLine line) : t.start < line.toList.length := by
  obtain ⟨c, there, -⟩ := exists_char_of_mem member
  by_contra outside
  rw [List.drop_eq_nil_of_le (Nat.not_lt.1 outside)] at there
  cases there

/-- Tokens that start at later characters start at later bytes. -/
theorem offset_lt (member : u ∈ ofLine line) (later : t.start < u.start) :
    t.offset line < u.offset line := by
  have within := start_lt_length member
  have between : (line.toList.drop t.start).take (u.start - t.start) ≠ [] := by
    rw [Ne, List.take_eq_nil_iff, List.drop_eq_nil_iff]
    omega
  have whole : line.toList.take u.start
      = line.toList.take t.start ++ (line.toList.drop t.start).take (u.start - t.start) := by
    rw [← List.take_add, Nat.add_sub_cancel' (Nat.le_of_lt later)]
  unfold offset
  rw [whole, String.ofList_append, String.utf8ByteSize_append]
  have some : (String.ofList ((line.toList.drop t.start).take (u.start - t.start))).utf8ByteSize
      ≠ 0 := by
    rw [Ne, String.utf8ByteSize_eq_zero_iff]
    simpa using between
  omega

theorem ofList_take_append_drop (line : String) (n : Nat) :
    String.ofList (line.toList.take n ++ line.toList.drop n) = line := by
  rw [List.take_append_drop, String.ofList_toList]

/-- A token starts between two characters. -/
theorem isValid_offset (line : String) (t : Token) :
    (⟨t.offset line⟩ : String.Pos.Raw).IsValid line := by
  refine String.Pos.Raw.isValid_iff_exists_append.2
    ⟨String.ofList (line.toList.take t.start), String.ofList (line.toList.drop t.start), ?_, rfl⟩
  rw [← String.ofList_append, ofList_take_append_drop]

theorem get?_offset (line : String) (t : Token) :
    String.Pos.Raw.get? line ⟨t.offset line⟩ = (line.toList.drop t.start).head? := by
  have found := String.get?_of_valid (line.toList.take t.start) (line.toList.drop t.start)
  rwa [ofList_take_append_drop, utf8Len_take] at found

/-- The rest of a line from the byte on at which a token starts. -/
theorem extract_offset (line : String) (t : Token) :
    String.Pos.Raw.extract line ⟨t.offset line⟩ line.rawEndPos
      = String.ofList (line.toList.drop t.start) := by
  have cut := String.extract_of_valid (line.toList.take t.start) (line.toList.drop t.start) []
  have whole : String.utf8Len line.toList = line.utf8ByteSize := by
    rw [← String.utf8ByteSize_ofList, String.ofList_toList]
  rw [List.append_nil, ofList_take_append_drop, ← String.utf8Len_append, List.take_append_drop,
    utf8Len_take, whole] at cut
  exact cut

/-- **The source of an argument is cut out of its line at a byte.** -/
theorem sourceFrom_argumentsOf {keyword : String} {skipped index : Nat}
    (there : (ofLine line)[skipped + index]? = some t) :
    (argumentsOf keyword line skipped).sourceFrom index
      = Text.trim (String.Pos.Raw.extract line ⟨t.offset line⟩ line.rawEndPos) := by
  have argument : (argumentsOf keyword line skipped).tokens[index]? = some t :=
    List.getElem?_drop.trans there
  rw [Arguments.sourceFrom, argument, extract_offset]
  rfl

/-! ## Quoted texts -/

/-- A text between backticks. -/
def quoted (text : String) : String := "`" ++ text ++ "`"

theorem toList_quoted (text : String) : (quoted text).toList = '`' :: (text.toList ++ ['`']) := by
  rw [quoted, String.toList_append, String.toList_append]
  rfl

/-- **Texts between backticks are tokens**, with a space between neighbours. -/
theorem texts_scan_quoted {texts : List String}
    (inner : ∀ text ∈ texts, text ≠ "" ∧ '`' ∉ text.toList) (position : Nat) :
    (scan position false none
        (Text.joinWith [' '] ((texts.map quoted).map String.toList))).map (·.text) = texts := by
  induction texts generalizing position with
  | nil => rfl
  | cons text texts ih =>
      obtain ⟨⟨filled, noTick⟩, others⟩ := List.forall_mem_cons.1 inner
      have filled : text.toList ≠ [] := fun empty => filled (String.toList_eq_nil_iff.1 empty)
      cases texts with
      | nil =>
          rw [List.map_cons, List.map_cons, toList_quoted]
          exact (congrArg _ (scan_quoted noTick filled)).trans (by simp)
      | cons second texts =>
          have rest := ih others
          rw [List.map_cons, List.map_cons] at rest
          rw [List.map_cons, List.map_cons, List.map_cons, List.map_cons,
            Text.joinWith_cons_cons, toList_quoted, List.append_assoc, List.cons_append,
            List.append_assoc, List.singleton_append, List.singleton_append, scan_tick]
          refine (congrArg _ (scan_inside noTick)).trans ?_
          rw [scan_gap rfl, close_some position (by simpa using filled), List.map_append, rest]
          simp

/-! ## All of it -/

/-- **What the tokens of a line are.** -/
theorem tokens_of_line :
    (∀ line : String,
      (∀ t ∈ ofLine line, t.text ≠ "" ∧ '`' ∉ t.text.toList)
        ∧ (ofLine line).flatMap (·.text.toList)
          = kept false (Text.splitAt (· == '`') line.toList)
        ∧ (ofLine line).Pairwise (fun t u => t.offset line < u.offset line)
        ∧ (∀ t ∈ ofLine line, (⟨t.offset line⟩ : String.Pos.Raw).IsValid line
            ∧ ∃ c, String.Pos.Raw.get? line ⟨t.offset line⟩ = some c ∧ isBlank c = false)
        ∧ ∀ keyword skipped index t, (ofLine line)[skipped + index]? = some t →
            (argumentsOf keyword line skipped).sourceFrom index
              = Text.trim (String.Pos.Raw.extract line ⟨t.offset line⟩ line.rawEndPos))
      ∧ ∀ texts : List String, (∀ text ∈ texts, text ≠ "" ∧ '`' ∉ text.toList) →
          (ofLine (Text.join " " (texts.map quoted))).map (·.text) = texts := by
  refine ⟨fun line => ⟨fun t member => ?_, ?_, ?_, fun t member => ⟨isValid_offset line t, ?_⟩,
    fun keyword skipped index t there => sourceFrom_argumentsOf there⟩, fun texts inner => ?_⟩
  · obtain ⟨filled, noTick, -⟩ := text_of_mem member List.not_mem_nil
    exact ⟨fun empty => filled (empty ▸ rfl), noTick⟩
  · exact flatMap_scan 0 false none line.toList
  · have ordered : (ofLine line).Pairwise (·.start < ·.start) := scan_pairwise (before_none 0)
    exact ordered.imp_of_mem fun _ member later => offset_lt member later
  · obtain ⟨c, there, solid⟩ := exists_char_of_mem member
    exact ⟨c, (get?_offset line t).trans there, solid⟩
  · rw [ofLine_eq, Text.join, String.toList_ofList]
    exact texts_scan_quoted inner 0

/-- A word of two bytes and a quoted text with a blank. -/
theorem tokens_of_line_accent :
    (ofLine "é `b c`").map (offset "é `b c`") = [0, 3]
      ∧ (ofLine (Text.join " " (["é", "b c"].map quoted))).map (·.text) = ["é", "b c"] :=
  ⟨by decide +kernel, tokens_of_line.2 ["é", "b c"] (by decide)⟩

end PromptPipeline.Grammar.Token
