import Std.Data.HashSet
import SyscallFilter.Pattern.Basic
import SyscallFilter.Unicode.RangeTable

/-! # How large a pattern is

A pattern stands for two machines that read bytes, one forwards and one backwards. A pattern for which one of
them would be larger than a limit is refused. Counted repetition copies states, so a short pattern can be
large. -/

namespace SyscallFilter

open Unicode

/-! ## Sizes in bytes -/

def stateSize : Nat := 32

/-- A way out of a state that has several, on a run of bytes. -/
def moveSize : Nat := 8

/-- A way out of a state that has several, without a byte. -/
def branchSize : Nat := 4

def sizeLimit : Nat := 10 * 1024 * 1024

/-! ## Classes -/

namespace CharClass

/-- The bytes of the members, as rows of runs in ascending order. -/
def byteRuns (k : CharClass) : List (List (Nat × Nat)) :=
  k.runs.toList.flatMap fun (first, last) => Utf8.byteRuns first last

/-- The size of a class that is the same in both directions: a single character takes a state for each byte,
a class of ASCII two states. -/
def sameSize? (k : CharClass) : Option Nat :=
  match k.runs.toList with
  | [] => some (2 * stateSize)
  | [(first, last)] =>
    if first = last then some (Utf8.width first * stateSize)
    else if last < 128 then some (2 * stateSize + moveSize)
    else none
  | runs => if runs.all (·.2 < 128) then some (2 * stateSize + runs.length * moveSize) else none

/-- How many runs at the start of a row are those of the one before it. -/
def sharedRuns : List (Nat × Nat) → List (Nat × Nat) → Nat
  | a :: as, b :: bs => if a = b then sharedRuns as bs + 1 else 0
  | _, _ => 0

/-- How many runs rows in order do not share with the row before them. -/
def newRuns (rows : List (List (Nat × Nat))) : Nat :=
  (rows.foldl (fun (before, count) row => (row, count + (row.length - sharedRuns before row))) ([], 0)).2

/-- Read backwards, rows share the states of what they begin with. -/
def backwardSize (k : CharClass) : Nat :=
  k.sameSize?.getD <|
    let rows := k.byteRuns
    2 * stateSize + rows.length * branchSize + newRuns rows * stateSize

/-- What may follow after each way to begin some rows, the rows themselves first. -/
def continuations : Nat → List (List (Nat × Nat)) → List (List (List (Nat × Nat)))
  | 0, _ => []
  | count + 1, rows =>
    rows :: (rows.splitBy fun a b => a.head? == b.head?).flatMap fun rows =>
      match rows.map List.tail with
      | [] :: _ => []
      | rows => continuations count rows

/-- Read forwards, all ways to begin share a state that may be followed by the same. -/
def forwardSize (k : CharClass) : Nat :=
  k.sameSize?.getD <|
    let states := (continuations 4 k.byteRuns).foldl Std.HashSet.insert (∅ : Std.HashSet _)
    states.fold (fun size rows =>
      size + stateSize + (rows.splitBy fun a b => a.head? == b.head?).length * moveSize) stateSize

/-- No less than either size, and found at once: the rows of bytes of one run of characters take less than
forty states. -/
def roughSize (k : CharClass) : Nat := (2 + 40 * k.runs.size) * stateSize

end CharClass

/-! ## Patterns -/

namespace Pattern

/-- One of several alternatives. Those inside an alternative are alternatives of the whole. -/
def alternativeSize (p : Pattern) (size : Nat) : Nat :=
  match p with
  | alt _ _ => size - 2 * stateSize
  | _ => branchSize + max stateSize size

/-- The size of a repetition of a part. What takes no character is not repeated more than once. -/
def repeatedSize (least : Nat) (most : Option Nat) (p : Pattern) (size : Nat) : Nat :=
  let least := if p.takesNone then min least 1 else least
  let most := if p.takesNone then some (min 1 (most.getD 1)) else most
  let one := max stateSize size
  let fork := stateSize + 2 * branchSize
  if most = some 0 then 0
  else if least = 1 && most = some 1 then size
  else
    match most with
    | none =>
      if least != 0 then least * one + fork
      else if p.takesSome then one + fork
      else one + 2 * fork + stateSize
    | some most =>
      if least = most then least * one
      else if most = 1 then one + fork + stateSize
      else max stateSize (least * one) + stateSize + (most - least) * (one + fork)

/-- The size of the states for a pattern, from the sizes of classes and of a group. What holds nothing takes
no state unless it stands alone. -/
def size (ofClass : CharClass → Nat) (ofGroup : Nat) : Pattern → Nat
  | empty => 0
  | char k => ofClass k
  | edge _ => stateSize
  | seq a b => a.size ofClass ofGroup + b.size ofClass ofGroup
  | alt a b =>
    2 * stateSize + alternativeSize a (a.size ofClass ofGroup) + alternativeSize b (b.size ofClass ofGroup)
  | rep least most p => repeatedSize least most p (p.size ofClass ofGroup)
  | group p => ofGroup + max stateSize (p.size ofClass ofGroup)

/-- What a machine has besides the states for its pattern: it may skip bytes at first, and it has an end. -/
def frameSize : Nat := 4 * stateSize + moveSize + 2 * branchSize

/-- Whether both machines are within the limit. Only the one that reads forwards notes where groups are. -/
def fits (p : Pattern) : Bool :=
  let within (ofClass : CharClass → Nat) (ofGroup : Nat) : Bool :=
    frameSize + (group p).size ofClass ofGroup ≤ sizeLimit
  within CharClass.roughSize (2 * stateSize) ||
    (within CharClass.backwardSize 0 && within CharClass.forwardSize (2 * stateSize))

end Pattern

end SyscallFilter
