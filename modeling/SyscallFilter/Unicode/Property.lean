import SyscallFilter.Unicode.Age
import SyscallFilter.Unicode.BinaryProperty
import SyscallFilter.Unicode.GeneralCategory
import SyscallFilter.Unicode.Script
import SyscallFilter.Unicode.Segmentation

/-! # Looking up sets of characters by property -/

namespace SyscallFilter.Unicode

/-- A property name with only the letters that count, less a leading `is`. The name `isc` is kept whole,
because `c` alone is another name. -/
def normalizeName (name : String) : String :=
  let plain (cs : List Char) :=
    ((cs.filter fun c => c ≠ ' ' && c ≠ '_' && c ≠ '-').filter fun c => c.toNat < 128).map Char.toLower
  match name.toList with
  | i :: s :: rest =>
    if i.toLower = 'i' && s.toLower = 's' then
      let short := plain rest
      if short = ['c'] then "isc" else String.ofList short
    else String.ofList (plain (i :: s :: rest))
  | cs => String.ofList (plain cs)

/-- The code points of a general category; `any`, `assigned` and `ascii` are names too. -/
def category? (normalized : String) : Option RangeTable :=
  if normalized = "any" then some ⟨#[(0, 0x10FFFF)]⟩
  else if normalized = "ascii" then some ⟨#[(0, 0x7F)]⟩
  else if normalized = "assigned" then
    some (GeneralCategory.table ((GeneralCategory.names.map (·.1)).filter (· ≠ "Cn")))
  else GeneralCategory.find? normalized

/-- The set that a single name stands for: a yes-or-no property, else a general category, else a script.
`cf`, `sc` and `lc` are always categories. -/
def property? (name : String) : Option RangeTable :=
  let normalized := normalizeName name
  let yesOrNo :=
    if ["cf", "sc", "lc"].contains normalized then none else BinaryProperty.find? normalized
  yesOrNo <|> category? normalized <|> Script.find? normalized

/-- The set of code points for which the property `name` has the value `value`. -/
def propertyValue? (name value : String) : Option RangeTable :=
  let normalized := normalizeName value
  match normalizeName name with
  | "gc" | "generalcategory" => category? normalized
  | "sc" | "script" => Script.find? normalized
  | "scx" | "scriptextensions" => Script.findExtensions? normalized
  | "age" => Age.find? normalized
  | "gcb" | "graphemeclusterbreak" =>
    Segmentation.find? Segmentation.graphemeBreakNames Segmentation.graphemeBreakPartition normalized
  | "wb" | "wordbreak" =>
    Segmentation.find? Segmentation.wordBreakNames Segmentation.wordBreakPartition normalized
  | "sb" | "sentencebreak" =>
    Segmentation.find? Segmentation.sentenceBreakNames Segmentation.sentenceBreakPartition normalized
  | _ => none

/-! ## Sets that patterns need at every character -/

def decimalDigits : RangeTable := GeneralCategory.table ["Nd"]

/-- Numbers of every kind. -/
def numeric : RangeTable := GeneralCategory.table ["Nd", "Nl", "No"]

def marksAndConnectors : RangeTable := GeneralCategory.table ["Mc", "Me", "Mn", "Nd", "Pc"]

def joinControls : RangeTable := (BinaryProperty.find? "joincontrol").getD .empty

/-- The characters that words are made of. -/
def wordChars : RangeTable := (alphabetic.union marksAndConnectors).union joinControls

def isWord (c : Char) : Bool := wordChars.contains c

/-- The words of ASCII text. -/
def isAsciiWord (c : Char) : Bool := c.isAlphanum || c = '_'

/-! ## The characters of the latest version

The tables of properties, which patterns look up, are those of version 16. The names of groups and whatever
has to do with the log go by version 17, which has these characters besides. -/

def latestLetters : RangeTable :=
  ⟨#[(0x88F, 0x88F), (0xC5C, 0xC5C), (0xCDC, 0xCDC), (0xA7CE, 0xA7CF), (0xA7D2, 0xA7D2),
    (0xA7D4, 0xA7D4), (0xA7F1, 0xA7F1), (0x10940, 0x10959), (0x10EC5, 0x10EC7),
    (0x10EFA, 0x10EFB), (0x11B60, 0x11B67), (0x11DB0, 0x11DDB), (0x16EA0, 0x16EB8),
    (0x16EBB, 0x16ED3), (0x16FF2, 0x16FF6), (0x187F8, 0x187FF), (0x18D09, 0x18D1E),
    (0x18D80, 0x18DF2), (0x1E6C0, 0x1E6DE), (0x1E6E0, 0x1E6F5), (0x1E6FE, 0x1E6FF),
    (0x2B73A, 0x2B73F), (0x2CEA2, 0x2CEAD), (0x323B0, 0x33479)]⟩

def latestNumbers : RangeTable :=
  ⟨#[(0x11DE0, 0x11DE9), (0x16FF4, 0x16FF6)]⟩

/-- All but the marks that change the character before them. -/
def latestVisible : RangeTable :=
  ⟨#[(0x88F, 0x88F), (0xC5C, 0xC5C), (0xCDC, 0xCDC), (0x20C1, 0x20C1), (0x2B96, 0x2B96),
    (0xA7CE, 0xA7CF), (0xA7D2, 0xA7D2), (0xA7D4, 0xA7D4), (0xA7F1, 0xA7F1), (0xFBC3, 0xFBD2),
    (0xFD90, 0xFD91), (0xFDC8, 0xFDCE), (0x10940, 0x10959), (0x10EC5, 0x10EC7),
    (0x10ED0, 0x10ED8), (0x11B61, 0x11B61), (0x11B65, 0x11B65), (0x11B67, 0x11B67),
    (0x11DB0, 0x11DDB), (0x11DE0, 0x11DE9), (0x16EA0, 0x16EB8), (0x16EBB, 0x16ED3),
    (0x16FF2, 0x16FF6), (0x187F8, 0x187FF), (0x18D09, 0x18D1E), (0x18D80, 0x18DF2),
    (0x1CCFA, 0x1CCFC), (0x1CEBA, 0x1CED0), (0x1CEE0, 0x1CEF0), (0x1E6C0, 0x1E6DE),
    (0x1E6E0, 0x1E6E2), (0x1E6E4, 0x1E6E5), (0x1E6E7, 0x1E6ED), (0x1E6F0, 0x1E6F4),
    (0x1E6FE, 0x1E6FF), (0x1F6D8, 0x1F6D8), (0x1F777, 0x1F77A), (0x1F8D0, 0x1F8D8),
    (0x1FA54, 0x1FA57), (0x1FA8A, 0x1FA8A), (0x1FA8E, 0x1FA8E), (0x1FAC8, 0x1FAC8),
    (0x1FACD, 0x1FACD), (0x1FAEA, 0x1FAEA), (0x1FAEF, 0x1FAEF), (0x1FBFA, 0x1FBFA),
    (0x2B73A, 0x2B73F), (0x2CEA2, 0x2CEAD), (0x323B0, 0x33479)]⟩

def isLetter (c : Char) : Bool := alphabetic.contains c || latestLetters.contains c

/-- Numbers of every kind. -/
def isNumber (c : Char) : Bool := numeric.contains c || latestNumbers.contains c

end SyscallFilter.Unicode
