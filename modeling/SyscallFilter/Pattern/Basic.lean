import SyscallFilter.Unicode.CaseFolding
import SyscallFilter.Unicode.Property

/-! # Patterns, and the classes of characters that they are made of -/

namespace SyscallFilter

open Unicode

/-! ## Classes of characters -/

/-- A set of characters in a pattern. -/
abbrev CharClass := RangeTable

namespace CharClass

def span (first last : Char) : CharClass := ⟨#[(first.toNat, last.toNat)]⟩

def single (c : Char) : CharClass := span c c

/-- The members of all of some classes. -/
def unions (ks : List CharClass) : CharClass := .ofRuns (ks.flatMap fun k => k.runs.toList)

def ofList (cs : List Char) : CharClass := unions (cs.map single)

def any : CharClass := RangeTable.empty.compl

/-! ### ASCII classes -/

def asciiDigit : CharClass := span '0' '9'

def asciiLetter : CharClass := unions [span 'A' 'Z', span 'a' 'z']

def asciiWord : CharClass := unions [asciiDigit, asciiLetter, single '_']

def asciiSpace : CharClass := ofList ['\t', '\n', '\x0B', '\x0C', '\x0D', ' ']

/-- The classes that can be named inside brackets. -/
def posix? (name : String) : Option CharClass :=
  match name with
  | "alnum" => some (unions [asciiDigit, asciiLetter])
  | "alpha" => some asciiLetter
  | "ascii" => some (span '\x00' '\x7F')
  | "blank" => some (ofList ['\t', ' '])
  | "cntrl" => some (unions [span '\x00' '\x1F', single '\x7F'])
  | "digit" => some asciiDigit
  | "graph" => some (span '!' '~')
  | "lower" => some (span 'a' 'z')
  | "print" => some (span ' ' '~')
  | "punct" => some (unions [span '!' '/', span ':' '@', span '[' '\x60', span '\x7B' '~'])
  | "space" => some asciiSpace
  | "upper" => some (span 'A' 'Z')
  | "word" => some asciiWord
  | "xdigit" => some (unions [asciiDigit, span 'A' 'F', span 'a' 'f'])
  | _ => none

end CharClass

/-! ## Patterns -/

/-- How a place in a text lies to the words around it. -/
inductive WordEdge where
  | boundary
  | inner
  | start
  | stop
  /-- No word character before. -/
  | startHalf
  /-- No word character after. -/
  | stopHalf
  deriving Repr, DecidableEq

/-- A condition on the characters before and after a place. -/
inductive Edge where
  | textStart
  | textEnd
  | lineStart
  | lineEnd
  /-- Lines that end in CR, LF or both. -/
  | lineStartCrlf
  | lineEndCrlf
  | word (ascii : Bool) (edge : WordEdge)
  deriving Repr, DecidableEq

inductive Pattern where
  | empty
  | char (k : CharClass)
  | edge (e : Edge)
  | seq (a b : Pattern)
  | alt (a b : Pattern)
  /-- At least `least` times, and at most `most` times if there is a bound. -/
  | rep (least : Nat) (most : Option Nat) (p : Pattern)
  /-- A group that has a number. It holds where its pattern does. -/
  | group (p : Pattern)
  deriving Repr

/-! ## Edges -/

def WordEdge.holds (edge : WordEdge) (before after : Bool) : Bool :=
  match edge with
  | boundary => before != after
  | inner => before == after
  | start => !before && after
  | stop => before && !after
  | startHalf => !before
  | stopHalf => !after

/-- Whether a place with these neighbours is such an edge; there is no neighbour at an end of the text. -/
def Edge.holds (e : Edge) (before after : Option Char) : Bool :=
  match e with
  | textStart => before.isNone
  | textEnd => after.isNone
  | lineStart => before.isNone || before == some '\n'
  | lineEnd => after.isNone || after == some '\n'
  | lineStartCrlf =>
    before.isNone || before == some '\n' || (before == some '\x0D' && after != some '\n')
  | lineEndCrlf =>
    after.isNone || after == some '\x0D' || (after == some '\n' && before != some '\x0D')
  | word ascii edge =>
    let inWord (c : Option Char) := c.any (if ascii then isAsciiWord else isWord)
    edge.holds (inWord before) (inWord after)

namespace Pattern

/-! ## Rows of patterns -/

/-- Each pattern joined with its neighbour. -/
def joinPairs (op : Pattern → Pattern → Pattern) : List Pattern → List Pattern
  | a :: b :: rest => op a b :: joinPairs op rest
  | ps => ps

theorem length_joinPairs (op : Pattern → Pattern → Pattern) :
    ∀ ps : List Pattern, (joinPairs op ps).length ≤ ps.length
  | [] => Nat.le_refl _
  | [_] => Nat.le_refl _
  | _ :: _ :: rest => by
    have := length_joinPairs op rest
    simp only [joinPairs, List.length_cons]
    omega

/-- All patterns in one, in their order; the halves of every part are about as long. -/
def joinAll (op : Pattern → Pattern → Pattern) : List Pattern → Pattern
  | [] => empty
  | [p] => p
  | a :: b :: rest => joinAll op (op a b :: joinPairs op rest)
termination_by ps => ps.length
decreasing_by
  have := length_joinPairs op rest
  simp only [List.length_cons]
  omega

def isEmpty : Pattern → Bool
  | empty => true
  | _ => false

/-- One after the other. Parts that hold nothing are left out. -/
def concat (ps : List Pattern) : Pattern := joinAll seq (ps.filter fun p => !p.isEmpty)

/-- The class of a pattern that is one character. -/
def class? : Pattern → Option CharClass
  | char k => some k
  | _ => none

/-- Alternatives that are one character each are one class. -/
def alternatives (ps : List Pattern) : Pattern :=
  match ps.mapM class? with
  | some (k :: ks) => char (.unions (k :: ks))
  | _ => joinAll alt ps

/-! ## What the empty text has to do with a pattern -/

/-- Whether it holds between any two characters. -/
def holdsAnywhere : Pattern → Bool
  | empty => true
  | char _ | edge _ => false
  | seq a b => a.holdsAnywhere && b.holdsAnywhere
  | alt a b => a.holdsAnywhere || b.holdsAnywhere
  | rep least _ p => least = 0 || p.holdsAnywhere
  | group p => p.holdsAnywhere

/-- Whether it always takes a character. -/
def takesSome : Pattern → Bool
  | empty | edge _ => false
  | char _ => true
  | seq a b => a.takesSome || b.takesSome
  | alt a b => a.takesSome && b.takesSome
  | rep least _ p => least != 0 && p.takesSome
  | group p => p.takesSome

/-- Whether it never takes a character. -/
def takesNone : Pattern → Bool
  | empty | edge _ => true
  | char _ => false
  | seq a b | alt a b => a.takesNone && b.takesNone
  | rep _ most p => most == some 0 || p.takesNone
  | group p => p.takesNone

/-! ## Plainer forms -/

/-- The bound of so many repetitions of what is itself repeated so often. -/
def timesBound (inner outer : Option Nat) : Option Nat :=
  match inner, outer with
  | some b, some d => some (b * d)
  | some 0, none => some 0
  | none, some 0 => some 0
  | _, _ => none

/-- Whether repeating what is repeated `least` to `most` times, from `outerLeast` to `outerMost` times, reaches
every count between the smallest and the largest. If the two smallest counts of the outer repetition leave no
gap between them, no larger ones do. -/
def joins (least : Nat) (most : Option Nat) (outerLeast : Nat) (outerMost : Option Nat) : Bool :=
  outerMost == some outerLeast ||
    match most with
    | some b => (outerLeast + 1) * least ≤ outerLeast * b + 1
    | none => outerLeast != 0 || least ≤ 1

/-- A repetition in its plainest form. What holds anywhere may be left out any number of times, and a
repeated repetition is one. -/
def times (least : Nat) (most : Option Nat) (p : Pattern) : Pattern :=
  let least := if p.holdsAnywhere then 0 else least
  match p with
  | rep a b q => if joins a b least most then rep (a * least) (timesBound b most) q else rep least most p
  | p => if least = 1 && most == some 1 then p else rep least most p

/-- The same pattern without groups and without repetitions that stand right inside another. -/
def plain : Pattern → Pattern
  | empty => empty
  | char k => char k
  | edge e => edge e
  | seq a b => seq a.plain b.plain
  | alt a b => alt a.plain b.plain
  | rep least most p => times least most p.plain
  | group p => p.plain

/-- Whether it looks for the edges of words in Unicode. What is repeated no time at all does not count. -/
def hasUnicodeEdge : Pattern → Bool
  | empty | char _ => false
  | edge (.word ascii _) => !ascii
  | edge _ => false
  | seq a b | alt a b => a.hasUnicodeEdge || b.hasUnicodeEdge
  | rep _ most p => most != some 0 && p.hasUnicodeEdge
  | group p => p.hasUnicodeEdge

end Pattern

end SyscallFilter
