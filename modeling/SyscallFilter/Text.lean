/-! # Pieces of text, and numerals -/

namespace SyscallFilter.Text

/-- The characters before and after the first `sep`. -/
def cutChars (sep : Char) : List Char → Option (List Char × List Char)
  | [] => none
  | c :: cs =>
    if c = sep then some ([], cs) else (cutChars sep cs).map fun (a, b) => (c :: a, b)

/-- The text before and after the first `sep`. -/
def cut (sep : Char) (s : String) : Option (String × String) :=
  (cutChars sep s.toList).map fun (a, b) => (String.ofList a, String.ofList b)

/-- The pieces between separators: one more than there are separators. -/
def pieces (sep : Char) : List Char → List (List Char)
  | [] => [[]]
  | c :: cs =>
    if c = sep then [] :: pieces sep cs
    else
      match pieces sep cs with
      | [] => [[c]]
      | piece :: rest => (c :: piece) :: rest

/-- The pieces that are not empty. -/
def tokens (sep : Char) (s : String) : List String :=
  ((pieces sep s.toList).filter (· ≠ [])).map String.ofList

/-- How often `c` stands at the start, and what follows. -/
def leadingChars (c : Char) : List Char → Nat × List Char
  | [] => (0, [])
  | d :: ds => if d = c then ((leadingChars c ds).1 + 1, (leadingChars c ds).2) else (0, d :: ds)

def leading (c : Char) (s : String) : Nat × String :=
  ((leadingChars c s.toList).1, String.ofList (leadingChars c s.toList).2)

/-- What follows `start` in `s`, if `s` begins with it. -/
def after? (start s : String) : Option String :=
  if start.toList.isPrefixOf s.toList then some (String.ofList (s.toList.drop start.length)) else none

/-- Equal but for the case of ASCII letters. -/
def sameLetters (a b : String) : Bool := a.toList.map Char.toLower == b.toList.map Char.toLower

end SyscallFilter.Text

/-! ## Numerals -/

namespace SyscallFilter.Numeral

def digitValue (c : Char) : Nat := c.toNat - '0'.toNat

def value (digits : List Char) : Nat := digits.foldl (fun n c => 10 * n + digitValue c) 0

/-- The number that a text of ASCII digits spells. A sign, a blank or an empty text is no numeral; leading
zeros are allowed. -/
def parse? (s : String) : Option Nat :=
  if s.toList ≠ [] && s.toList.all Char.isDigit then some (value s.toList) else none

/-- The same for numbers up to `max`. -/
def upTo (max : Nat) (s : String) : Option Nat := (parse? s).filter (· ≤ max)

/-- The largest number that a selector, a descriptor or a return value can be. -/
def maxNumber : Nat := 2147483647

def number? (s : String) : Option Nat := upTo maxNumber s

/-- Whether a text starts like a numeral. It then stands for a number or for nothing. -/
def startsWithDigit (s : String) : Bool := s.toList.head?.any Char.isDigit

end SyscallFilter.Numeral
