/-
# Proofs.Json.Scalar -- numbers and strings that are read back

A string ends with its quote, so it is read back before any text (`readString_stringText`).
A number ends where no character goes on with it: before a text that `Stops` it, it is read
back as it was written (`readNumber_digits`, `readNumber_decimal`).
-/
import PromptPipeline.Json.Printer
import PromptPipeline.Json.Reader

namespace PromptPipeline.Json

set_option autoImplicit false

/-! ## Digits -/

/-- No character of a number stands at the start of a text. -/
def Stops (s : List Char) : Prop :=
  ∀ c ∈ s.head?, c.isDigit = false ∧ c ≠ '.' ∧ c ≠ 'e' ∧ c ≠ 'E'

theorem stops_nil : Stops [] := by
  intro c head
  cases head

/-- The digits of a number are read up to where they end. -/
theorem span_digits {digits s : List Char} (isDigits : ∀ c ∈ digits, c.isDigit = true)
    (ends : ∀ c ∈ s.head?, c.isDigit = false) :
    (digits ++ s).takeWhile Char.isDigit = digits ∧ (digits ++ s).dropWhile Char.isDigit = s := by
  rw [List.takeWhile_append_of_pos isDigits, List.dropWhile_append_of_pos isDigits]
  cases s with
  | nil => simp
  | cons c s =>
      have notDigit : c.isDigit = false := ends c rfl
      simp [notDigit]

/-- A decimal digit has its value among the hexadecimal ones. -/
theorem hexValue?_of_isDigit {c : Char} (digit : c.isDigit = true) :
    Text.hexValue? c = some (c.toNat - '0'.toNat) := by
  rw [Text.hexValue?, if_pos]
  simpa [Char.isDigit, Char.le_def] using digit

/-- Digits spell the number that they were written for. -/
theorem readDigits_toDigits (n : Nat) : Text.readDigits 10 (Nat.toDigits 10 n) = n := by
  have isDigits : ∀ c ∈ Nat.toDigits 10 n, c.isDigit = true := fun c inside =>
    Nat.isDigit_of_mem_toDigits (by decide) (by decide) inside
  have spelled := Nat.ofDigitChars_ten_toDigits (n := n)
  rw [Nat.ofDigitChars_eq_foldl] at spelled
  have same : ∀ digits : List Char, (∀ c ∈ digits, c.isDigit = true) → ∀ n,
      digits.foldl (fun n c => n * 10 + (Text.hexValue? c).getD 0) n
        = digits.foldl (fun n c => 10 * n + (c.toNat - '0'.toNat)) n := by
    intro digits
    induction digits with
    | nil => exact fun _ _ => rfl
    | cons c digits ih =>
        intro each n
        obtain ⟨digit, others⟩ := List.forall_mem_cons.1 each
        rw [List.foldl_cons, List.foldl_cons, hexValue?_of_isDigit digit, Option.getD_some,
          Nat.mul_comm n 10]
        exact ih others _
  rw [Text.readDigits, same _ isDigits 0]
  exact spelled

/-- The digits of a number start with a zero only if this is the number. -/
theorem head_toDigits (n : Nat) :
    n = 0 ∨ ∃ c digits, Nat.toDigits 10 n = c :: digits ∧ c ≠ '0' := by
  induction n using Nat.strongRecOn with
  | ind n ih =>
    by_cases small : n < 10
    · have digit : ∀ d < 10, d = 0 ∨ d.digitChar ≠ '0' := by decide
      rw [Nat.toDigits_of_lt_base small]
      exact (digit n small).imp_right fun notZero => ⟨_, [], rfl, notZero⟩
    · have large : 10 ≤ n := by omega
      rcases ih (n / 10) (by omega) with zero | ⟨c, digits, is, notZero⟩
      · omega
      · rw [Nat.toDigits_of_base_le (by decide) large, is]
        exact .inr ⟨c, _, rfl, notZero⟩

/-! ## Numbers -/

/-- A whole number after its sign is read up to where its digits end. -/
theorem readNumber_toDigits (negative : Bool) (n : Nat) {s : List Char}
    (ends : ∀ c ∈ s.head?, c.isDigit = false) :
    readNumber negative (Nat.toDigits 10 n ++ s) = readFraction negative n s := by
  have isDigits : ∀ c ∈ Nat.toDigits 10 n, c.isDigit = true := fun c inside =>
    Nat.isDigit_of_mem_toDigits (by decide) (by decide) inside
  obtain ⟨taken, dropped⟩ := span_digits isDigits ends
  rcases head_toDigits n with rfl | ⟨c, digits, is, notZero⟩
  · have noDigit : ¬(s.head?.any Char.isDigit = true) := by
      cases s with
      | nil => simp
      | cons c s => simp [ends c rfl]
    rw [Nat.toDigits_zero, List.singleton_append, readNumber, if_neg noDigit]
  · have digit : c.isDigit = true := isDigits c (by simp [is])
    have value := readDigits_toDigits n
    rw [is] at taken dropped value ⊢
    rw [List.cons_append] at taken dropped ⊢
    rw [readNumber, if_pos digit, taken, dropped, value]
    exact notZero

/-- A whole number ends before what stops it. -/
theorem readFraction_of_stops (negative : Bool) (n : Nat) {s : List Char} (stops : Stops s) :
    readFraction negative n s
      = (.number (if negative && n == 0 then .decimal true 0 0
          else .int (if negative then -(n : Int) else n)), some s) := by
  unfold readFraction
  split
  · exact absurd rfl (stops '.' rfl).2.1
  · exact absurd rfl (stops 'e' rfl).2.2.1
  · exact absurd rfl (stops 'E' rfl).2.2.2
  · rfl

/-- The text of a whole number is its sign and its digits. -/
theorem toList_toString (n : Int) :
    (toString n).toList = (if n < 0 then ['-'] else []) ++ Nat.toDigits 10 n.natAbs := by
  rw [Int.toString_eq_repr, Int.repr_eq_if]
  by_cases below : n < 0
  · have notBelow : ¬0 ≤ n := by omega
    have abs : (-n).toNat = n.natAbs := by omega
    simp [below, notBelow, abs, Nat.repr_eq_ofList_toDigits]
  · have notBelow : 0 ≤ n := by omega
    have abs : n.toNat = n.natAbs := by omega
    simp [below, notBelow, abs, Nat.repr_eq_ofList_toDigits]

/-- An exponent is read back. -/
theorem readExponent_toString (negative : Bool) (digits : Nat) (exponent : Int) {s : List Char}
    (ends : ∀ c ∈ s.head?, c.isDigit = false) :
    readExponent negative digits 0 ((toString exponent).toList ++ s)
      = (.number (.decimal negative digits exponent), some s) := by
  have isDigits : ∀ c ∈ Nat.toDigits 10 exponent.natAbs, c.isDigit = true := fun c inside =>
    Nat.isDigit_of_mem_toDigits (by decide) (by decide) inside
  obtain ⟨taken, dropped⟩ := span_digits isDigits ends
  have value := readDigits_toDigits exponent.natAbs
  obtain ⟨c, others, is⟩ := List.exists_cons_of_ne_nil
    (Nat.toDigits_ne_nil (b := 10) (n := exponent.natAbs))
  have digit : c.isDigit = true := isDigits c (by simp [is])
  rw [is] at taken dropped value
  rw [List.cons_append] at taken dropped
  rw [toList_toString, is]
  unfold readExponent
  by_cases below : exponent < 0
  · have signed : -(exponent.natAbs : Int) = exponent := by omega
    rw [if_pos below, List.singleton_append, List.cons_append, List.cons_append]
    simp only [digit, taken, dropped, value, signed, if_true, Int.zero_add]
  · have unsigned : (exponent.natAbs : Int) = exponent := by omega
    rw [if_neg below, List.nil_append, List.cons_append]
    split
    rename_i signed
    split at signed
    · rename_i plus
      cases (List.cons.inj plus).1
      exact absurd digit (by decide)
    · rename_i minus
      cases (List.cons.inj minus).1
      exact absurd digit (by decide)
    · cases signed
      simp only [digit, taken, dropped, value, unsigned, if_true, Int.zero_add]
      rfl

/-- **A number is read back** behind its sign and before what stops it. -/
theorem readNumber_numberText (n : Number) :
    ∃ (negative : Bool) (c : Char) (t : List Char), c.isDigit = true
      ∧ (numberText n).toList = (if negative then ['-'] else []) ++ c :: t
      ∧ ∀ s, Stops s → readNumber negative (c :: (t ++ s)) = (.number n, some s) := by
  have first (n : Nat) : ∃ c t, c.isDigit = true ∧ Nat.toDigits 10 n = c :: t := by
    obtain ⟨c, t, is⟩ := List.exists_cons_of_ne_nil (Nat.toDigits_ne_nil (b := 10) (n := n))
    refine ⟨c, t, Nat.isDigit_of_mem_toDigits (b := 10) (n := n) (by decide) (by decide) ?_, is⟩
    simp [is]
  cases n with
  | int n =>
      obtain ⟨c, t, digit, is⟩ := first n.natAbs
      refine ⟨n < 0, c, t, digit, ?_, fun s stops => ?_⟩
      · rw [numberText, toList_toString, is]
        simp
      · have read := readNumber_toDigits (n < 0) n.natAbs (fun c head => (stops c head).1)
        rw [readFraction_of_stops _ _ stops, is, List.cons_append] at read
        rw [read]
        by_cases below : n < 0
        · have notZero : n.natAbs ≠ 0 := by omega
          have signed : -(n.natAbs : Int) = n := by omega
          have filled : (n.natAbs == 0) = false := beq_false_of_ne notZero
          rw [decide_eq_true below, filled, if_neg (by simp), if_pos rfl, signed]
        · have unsigned : (n.natAbs : Int) = n := by omega
          rw [decide_eq_false below, if_neg (by simp), if_neg (by simp), unsigned]
  | decimal negative digits exponent =>
      obtain ⟨c, t, digit, is⟩ := first digits
      refine ⟨negative, c, t ++ 'e' :: (toString exponent).toList, digit, ?_, fun s stops => ?_⟩
      · have sign : (if negative then "-" else "").toList = if negative then ['-'] else [] := by
          cases negative <;> rfl
        simp [numberText, is, sign]
      · have read := readNumber_toDigits negative digits
          (s := 'e' :: ((toString exponent).toList ++ s)) (by simp)
        rw [readFraction, readExponent_toString _ _ _ fun c head => (stops c head).1, is,
          List.cons_append] at read
        rw [List.append_assoc]
        exact read

/-! ## Strings -/

/-- The hexadecimal digits of a control character. -/
def controlDigits (n : Nat) : List Char :=
  ['0', '0'] ++ (if n < 16 then ['0'] else []) ++ Nat.toDigits 16 n

theorem mapM_controlDigits : ∀ n < 32,
    (controlDigits n).length = 4
      ∧ (controlDigits n).mapM Text.hexValue? = some [0, 0, n / 16, n % 16] := by
  decide

theorem readHex_controlDigits {n : Nat} (control : n < 32) (s : List Char) :
    readHex (controlDigits n ++ s) = .ok (n, s) := by
  obtain ⟨length, spelled⟩ := mapM_controlDigits n control
  have long : ∀ t : List Char, t.length ≤ Text.byteLength t := by
    intro t
    induction t with
    | nil => exact Nat.le_refl _
    | cons c t ih =>
        have pos := c.utf8Size_pos
        simp only [Text.byteLength, List.length_cons]
        omega
  have enough : ¬Text.byteLength (controlDigits n ++ s) < 4 := by
    have whole := long (controlDigits n ++ s)
    rw [List.length_append, length] at whole
    omega
  have value : ((0 * 16 + 0) * 16 + n / 16) * 16 + n % 16 = n := by omega
  rw [readHex, if_neg enough, ← length, List.take_left, List.drop_left, spelled]
  simp only [value]

/-- **A character is read back** from the way in which it is written inside of a string. -/
theorem readString_escapedChar (text : List Char) (fuel : Nat) (c : Char) (s : List Char) :
    readString (.ok text) (fuel + 1) (escapedChar c ++ s)
      = readString (.ok (c :: text)) fuel s := by
  unfold escapedChar
  split
  · rfl
  · rfl
  · rfl
  · rfl
  · rfl
  · rfl
  · rfl
  · rename_i noQuote noBackslash _ _ _ _ _
    split
    · rename_i control
      have below : c.toNat < 32 := control
      have digits := readHex_controlDigits below s
      have shape : ['\\', 'u', '0', '0'] ++ (if c.toNat < 16 then ['0'] else [])
          ++ Nat.toDigits 16 c.toNat ++ s = '\\' :: 'u' :: (controlDigits c.toNat ++ s) := by
        simp [controlDigits]
      have notLow : ¬(0xDC00 ≤ c.toNat ∧ c.toNat ≤ 0xDFFF) := by omega
      have notHigh : ¬(0xD800 ≤ c.toNat ∧ c.toNat ≤ 0xDBFF) := by omega
      have escaped : readEscape ('u' :: (controlDigits c.toNat ++ s)) = .ok (.ok c, s) := by
        rw [readEscape, digits]
        dsimp only [bind, Except.bind]
        rw [if_neg notLow, if_neg notHigh, Char.ofNat_toNat]
        rfl
      rw [shape, readString, escaped]
      rfl
    · rename_i plain
      rw [List.singleton_append, readString, if_neg plain]
      · rfl
      · exact noQuote
      · exact noBackslash

/-- What is written inside of a string is read back up to the quote. -/
theorem readString_flatMap (s rest : List Char) :
    ∀ (text : List Char) (fuel : Nat), s.length < fuel →
      readString (.ok text) fuel (s.flatMap escapedChar ++ '"' :: rest)
        = .ok (.ok (String.ofList (text.reverse ++ s)), rest) := by
  induction s with
  | nil =>
      intro text fuel enough
      obtain ⟨fuel, rfl⟩ := Nat.exists_eq_add_one_of_ne_zero (Nat.ne_of_gt enough)
      rw [List.flatMap_nil, List.nil_append, readString, List.append_nil]
      rfl
  | cons c s ih =>
      intro text fuel enough
      rw [List.length_cons] at enough
      obtain ⟨fuel, rfl⟩ := Nat.exists_eq_add_one_of_ne_zero (by omega : fuel ≠ 0)
      rw [List.flatMap_cons, List.append_assoc, readString_escapedChar, ih _ _ (by omega),
        List.reverse_cons, List.append_assoc, List.singleton_append]

/-- The way in which a text is written inside of a string is no shorter. -/
theorem length_le_flatMap_escapedChar (s : List Char) :
    s.length ≤ (s.flatMap escapedChar).length := by
  induction s with
  | nil => exact Nat.le_refl _
  | cons c s ih =>
      have filled : 0 < (escapedChar c).length := by
        unfold escapedChar
        split <;> try split
        all_goals simp
      rw [List.flatMap_cons, List.length_append, List.length_cons]
      omega

/-- A string is written between quotes. -/
theorem toList_stringText (s : String) :
    (stringText s).toList = '"' :: (s.toList.flatMap escapedChar ++ ['"']) := by
  simp [stringText]

/-- **A string is read back** behind its first quote. -/
theorem readString_stringText (s : String) (rest : List Char) :
    readString (.ok []) (s.toList.flatMap escapedChar ++ '"' :: rest).length.succ
        (s.toList.flatMap escapedChar ++ '"' :: rest)
      = .ok (.ok s, rest) := by
  have long := length_le_flatMap_escapedChar s.toList
  rw [readString_flatMap, List.reverse_nil, List.nil_append, String.ofList_toList]
  rw [List.length_append]
  omega

end PromptPipeline.Json
