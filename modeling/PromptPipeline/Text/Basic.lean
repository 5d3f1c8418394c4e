/-
# Text.Basic -- trimming, splitting and joining of texts

The operations run on lists of characters; the ones on `String` wrap them.  All
of them mean white space by `Unicode.isBlank`.
-/
import PromptPipeline.Unicode.Class

namespace PromptPipeline.Text

set_option autoImplicit false

open Unicode (isBlank)

/-! ## Characters -/

/-- Without the characters at the start that satisfy `p`. -/
def dropLeading (p : Char → Bool) (s : List Char) : List Char := s.dropWhile p

/-- Without the characters at the end that satisfy `p`. -/
def dropTrailing (p : Char → Bool) (s : List Char) : List Char :=
  (s.reverse.dropWhile p).reverse

/-- Without the characters at both ends that satisfy `p`. -/
def strip (p : Char → Bool) (s : List Char) : List Char :=
  dropTrailing p (dropLeading p s)

/-- The maximal runs of characters that do not satisfy `p`, in order. -/
def runsBetween (p : Char → Bool) : List Char → List (List Char)
  | [] => []
  | c :: rest =>
      if p c then runsBetween p rest
      else
        match rest with
        | [] => [[c]]
        | d :: _ =>
            if p d then [c] :: runsBetween p rest
            else
              match runsBetween p rest with
              | [] => [[c]]
              | run :: runs => (c :: run) :: runs

/-- The texts one after the other with `separator` between neighbours. -/
def joinWith (separator : List Char) : List (List Char) → List Char
  | [] => []
  | [t] => t
  | t :: rest => t ++ separator ++ joinWith separator rest

/-- Whether `needle` stands somewhere in the text. -/
def containsText (needle : List Char) : List Char → Bool
  | [] => needle.isEmpty
  | c :: rest => needle.isPrefixOf (c :: rest) || containsText needle rest

/-- What follows `lead`, if the text starts with it. -/
def afterLead? : List Char → List Char → Option (List Char)
  | [], s => some s
  | _ :: _, [] => none
  | p :: ps, c :: cs => if p = c then afterLead? ps cs else none

/-- The pieces between the characters that satisfy `p`; there is one piece more
than there are such characters. -/
def splitAt (p : Char → Bool) : List Char → List (List Char)
  | [] => [[]]
  | c :: rest =>
      if p c then [] :: splitAt p rest
      else
        match splitAt p rest with
        | [] => [[c]]
        | piece :: pieces => (c :: piece) :: pieces

/-! ## Texts -/

/-- Without the white space at both ends. -/
def trim (s : String) : String := String.ofList (strip isBlank s.toList)

/-- Whether a text has nothing but white space. -/
def blank (s : String) : Bool := s.toList.all isBlank

/-- The words of a text, that is its runs of other characters than white space. -/
def words (s : String) : List String := (runsBetween isBlank s.toList).map String.ofList

/-- Texts joined by a separator. -/
def join (separator : String) (parts : List String) : String :=
  String.ofList (joinWith separator.toList (parts.map String.toList))

/-- Whether the text `needle` stands in `s`. -/
def contains (needle s : String) : Bool := containsText needle.toList s.toList

/-- Whether `s` starts with `lead`. -/
def startsWith (lead s : String) : Bool := lead.toList.isPrefixOf s.toList

/-- The bytes of a character in UTF-8. -/
def byteLength : List Char → Nat
  | [] => 0
  | c :: rest => c.utf8Size + byteLength rest

end PromptPipeline.Text
