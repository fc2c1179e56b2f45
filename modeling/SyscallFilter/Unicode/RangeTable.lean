/-! # Sets of code points as runs, and their compact text -/

namespace SyscallFilter.Unicode

/-! ## Numbers -/

/-- The value of a digit in base 32, and whether it ends its number. -/
def digit (c : Char) : Nat × Bool :=
  let n := c.toNat
  if '0' ≤ c && c ≤ '9' then (n - 48, false)
  else if 'a' ≤ c && c ≤ 'v' then (n - 87, false)
  else if 'A' ≤ c && c ≤ 'Z' then (n - 65, true)
  else if 'w' ≤ c && c ≤ 'z' then (n - 93, true)
  else if c = '+' then (30, true)
  else (31, true)

/-- The numbers of a text, each in base 32 with a digit that marks its end. -/
def numbers (text : String) : List Nat :=
  let (_, found) := text.foldl (fun (value, found) c =>
    let (d, ends) := digit c
    if ends then (0, found.push (32 * value + d)) else (32 * value + d, found)) (0, (#[] : Array Nat))
  found.toList

/-! ## Names -/

/-- The letters of a name that count: case, blanks, hyphens and underscores do not. -/
def plainLetters (name : String) : List Char :=
  (name.toList.filter fun c => c ≠ ' ' && c ≠ '_' && c ≠ '-').map Char.toLower

/-- Whether `normalized`, which holds only letters that count, spells `name`. -/
def sameName (name normalized : String) : Bool := plainLetters name == normalized.toList

/-! ## Tables -/

/-- Code points given by their runs, first and last, in ascending order. -/
structure RangeTable where
  runs : Array (Nat × Nat)
  deriving Repr, DecidableEq

namespace RangeTable

def empty : RangeTable := ⟨#[]⟩

/-- Runs written as the gap before each and its length less one. -/
def spread : Nat → List Nat → List (Nat × Nat)
  | next, gap :: extra :: rest =>
    (next + gap, next + gap + extra) :: spread (next + gap + extra + 1) rest
  | _, _ => []

def ofText (text : String) : RangeTable := ⟨(spread 0 (numbers text)).toArray⟩

/-- The parts of a partition, written as a value and a length less one: value, first and last. -/
def parts : Nat → List Nat → List (Nat × Nat × Nat)
  | next, value :: extra :: rest => (value, next, next + extra) :: parts (next + extra + 1) rest
  | _, _ => []

/-- The parts whose value passes. -/
def ofPartition (text : String) (keep : Nat → Bool) : RangeTable :=
  ⟨((parts 0 (numbers text)).filterMap fun (value, first, last) =>
    if keep value then some (first, last) else none).toArray⟩

/-- Whether a run between places `lo` and `hi` holds `n`. -/
def holds (t : RangeTable) (n lo hi : Nat) : Bool :=
  if lo < hi then
    let mid := (lo + hi) / 2
    match t.runs[mid]? with
    | none => false
    | some (first, last) =>
      if n < first then t.holds n lo mid
      else if last < n then t.holds n (mid + 1) hi
      else true
  else false
termination_by hi - lo
decreasing_by all_goals omega

def contains (t : RangeTable) (c : Char) : Bool := t.holds c.toNat 0 t.runs.size

/-! ## Sets from sets -/

/-- Runs by ascending first, with those made one that overlap or touch. -/
def joinRuns (runs : List (Nat × Nat)) : List (Nat × Nat) :=
  (runs.foldl (fun joined (first, last) =>
    match joined with
    | [] => [(first, last)]
    | (start, stop) :: before =>
      if first ≤ stop + 1 then (start, max stop last) :: before else (first, last) :: joined) []).reverse

/-- The code points of some runs, in any order. -/
def ofRuns (runs : List (Nat × Nat)) : RangeTable :=
  ⟨(joinRuns (runs.mergeSort fun a b => a.1 ≤ b.1)).toArray⟩

/-- What lies between runs from `next` on, up to the last code point. -/
def gaps : Nat → List (Nat × Nat) → List (Nat × Nat)
  | next, [] => if next ≤ 0x10FFFF then [(next, 0x10FFFF)] else []
  | next, (first, last) :: rest =>
    if next < first then (next, first - 1) :: gaps (last + 1) rest else gaps (last + 1) rest

def union (a b : RangeTable) : RangeTable := ofRuns (a.runs.toList ++ b.runs.toList)

/-- All other characters. Code points that are no characters are left out. -/
def compl (t : RangeTable) : RangeTable :=
  ⟨(gaps 0 (ofRuns ((0xD800, 0xDFFF) :: t.runs.toList)).runs.toList).toArray⟩

def inter (a b : RangeTable) : RangeTable := (a.compl.union b.compl).compl

def diff (a b : RangeTable) : RangeTable := (a.compl.union b).compl

def symmDiff (a b : RangeTable) : RangeTable := (a.union b).diff (a.inter b)

end RangeTable

/-! ## Runs of code points as runs of bytes -/

namespace Utf8

/-- Numbers from `first` to `last`, as rows of runs of digits in base 64 of which `count` stand behind the
first. Every choice of one digit from each run of a row is a number, and each number is chosen once. -/
def digitRuns : Nat → Nat → Nat → List (List (Nat × Nat))
  | 0, first, last => [[(first, last)]]
  | count + 1, first, last =>
    if last < first then []
    else if first / 64 = last / 64 then
      (digitRuns count (first / 64) (last / 64)).map (· ++ [(first % 64, last % 64)])
    else
      let start := if first % 64 = 0 then first / 64 else first / 64 + 1
      let stop := if last % 64 = 63 then last / 64 else last / 64 - 1
      let head :=
        if first % 64 = 0 then []
        else (digitRuns count (first / 64) (first / 64)).map (· ++ [(first % 64, 63)])
      let middle := if start ≤ stop then (digitRuns count start stop).map (· ++ [(0, 63)]) else []
      let tail :=
        if last % 64 = 63 then []
        else (digitRuns count (last / 64) (last / 64)).map (· ++ [(0, last % 64)])
      head ++ middle ++ tail

/-- The code points that take one more byte than `count`, their last one, and what their first byte is
raised by. Those for surrogates are left out. -/
def widths : List (Nat × Nat × Nat × Nat) :=
  [(0, 0, 0x7F, 0), (1, 0x80, 0x7FF, 0xC0), (2, 0x800, 0xD7FF, 0xE0), (2, 0xE000, 0xFFFF, 0xE0),
    (3, 0x10000, 0x10FFFF, 0xF0)]

/-- The bytes of the characters from `first` to `last`, as rows of runs of bytes in ascending order. -/
def byteRuns (first last : Nat) : List (List (Nat × Nat)) :=
  widths.flatMap fun (count, lo, hi, mark) =>
    if max first lo ≤ min last hi then
      (digitRuns count (max first lo) (min last hi)).map fun
        | [] => []
        | (a, b) :: rest => (a + mark, b + mark) :: rest.map fun (a, b) => (a + 0x80, b + 0x80)
    else []

/-- How many bytes a code point takes. -/
def width (n : Nat) : Nat :=
  if n < 0x80 then 1 else if n < 0x800 then 2 else if n < 0x10000 then 3 else 4

end Utf8

end SyscallFilter.Unicode
