import SyscallFilter.Pattern.Basic

/-! # Whether a pattern occurs in a text

A text is read once, a character at a time. All that counts of the characters read so far is how far into the
pattern matches have come: marks say which characters of the pattern the next one of the text is taken for. -/

namespace SyscallFilter

/-- Which characters of a pattern the next character of the text is taken for. -/
inductive Marks where
  /-- None. -/
  | idle
  /-- The one that the pattern has. -/
  | next
  /-- Those of its two parts. -/
  | pair (a b : Marks)
  deriving Repr, DecidableEq

namespace Marks

def isIdle : Marks → Bool
  | idle => true
  | _ => false

def first : Marks → Marks
  | pair a _ => a
  | _ => idle

def second : Marks → Marks
  | pair _ b => b
  | _ => idle

/-- Two idle parts are an idle whole. -/
def join : Marks → Marks → Marks
  | idle, idle => idle
  | a, b => pair a b

def union : Marks → Marks → Marks
  | idle, m | m, idle => m
  | pair a b, pair c d => pair (a.union c) (b.union d)
  | m, _ => m

/-- The marks that are not among others of the same pattern. -/
def without : Marks → Marks → Marks
  | m, idle => m
  | next, next => idle
  | pair a b, pair c d => (a.without c).join (b.without d)
  | m, _ => m

end Marks

/-- A place in a text by the characters before and after it; there is none at an end of the text. -/
structure Place where
  before : Option Char
  after : Option Char

namespace Pattern

open Marks

/-! ## Repetitions

The copies of a repetition follow each other. `need` is the number of them, from the first on, that have to
be matched before the repetition may end. -/

/-- Enters the first copy and, if a copy holds here without a character, the ones after it up to the last
that is needed. To enter more would add nothing: what a match does from there it can do one copy earlier. Also
says whether a copy holds here. -/
def enterCopies (enter : Marks → Marks × Bool) (count need : Nat) (m : Marks) : Marks × Bool :=
  if count ≤ 1 then enter m
  else
    let half := count / 2
    let (a, holds) := enterCopies enter half need m.first
    if holds && half < need then
      let (b, _) := enterCopies enter (count - half) (need - half) m.second
      (a.join b, true)
    else (a.join m.second, holds)
termination_by count
decreasing_by all_goals omega

/-- Moves all copies on, and enters the copy after each that ends here. Also says whether the repetition may
end here, and whether what follows these copies has to be entered. If `loops`, the last copy follows itself. -/
def shiftCopies (shift enter : Marks → Marks × Bool) (loops : Bool) (count need : Nat) (m : Marks) :
    Marks × Bool × Bool :=
  if m.isIdle then (idle, false, false)
  else if count ≤ 1 then
    let (m, ended) := shift m
    (if ended && loops then (enter m).1 else m, ended && need ≤ 1, ended)
  else
    let half := count / 2
    let (a, endsInFirst, firstEnded) := shiftCopies shift enter false half need m.first
    let (b, endsInSecond, secondEnded) :=
      shiftCopies shift enter loops (count - half) (need - half) m.second
    if firstEnded then
      let (b, holds) := enterCopies enter (count - half) (need - half) b
      (a.join b, endsInFirst || endsInSecond || holds, secondEnded || (holds && count < need))
    else (a.join b, endsInFirst || endsInSecond, secondEnded)
termination_by count
decreasing_by all_goals omega

/-- The marks of copies without those that an earlier copy has as well, if no more are needed after it: with
more copies to come, a match can do the same. `seen` are the marks of such copies before these; those of these
are added. -/
def dropLater (count need : Nat) (seen m : Marks) : Marks × Marks :=
  if m.isIdle then (idle, seen)
  else if count ≤ 1 then
    if need ≤ 1 then (m.without seen, m.union seen) else (m, seen)
  else
    let half := count / 2
    let (a, seen) := dropLater half need seen m.first
    let (b, seen) := dropLater (count - half) (need - half) seen m.second
    (a.join b, seen)
termination_by count
decreasing_by all_goals omega

/-- The copies that a repetition needs and has. Each copy either stays or moves on, so `bound` copies, one
more than the text has characters, decide about all further ones. -/
def copies (bound least : Nat) (most : Option Nat) : Nat × Nat :=
  (min least bound, match most with
    | some most => min most bound
    | none => max 1 (min least bound))

/-! ## One place -/

/-- Lets a match begin here. Also says whether the pattern holds here without a character. -/
def enter (bound : Nat) (here : Place) : Pattern → Marks → Marks × Bool
  | empty, _ => (idle, true)
  | char k, _ => (if here.after.any k.contains then next else idle, false)
  | edge e, _ => (idle, e.holds here.before here.after)
  | group p, m => p.enter bound here m
  | seq p q, m =>
    let (a, holds) := p.enter bound here m.first
    if holds then
      let (b, holds) := q.enter bound here m.second
      (a.join b, holds)
    else (a.join m.second, false)
  | alt p q, m =>
    let (a, holdsFirst) := p.enter bound here m.first
    let (b, holdsSecond) := q.enter bound here m.second
    (a.join b, holdsFirst || holdsSecond)
  | rep least most p, m =>
    let (need, count) := copies bound least most
    if count = 0 then (idle, true)
    else
      let (m, holds) := enterCopies (p.enter bound here) count need m
      (m, need = 0 || holds)

/-- Moves all matches past the character before this place. Also says whether one may end here. -/
def shift (bound : Nat) (here : Place) : Pattern → Marks → Marks × Bool
  | _, idle => (idle, false)
  | empty, _ | edge _, _ => (idle, false)
  | char _, _ => (idle, true)
  | group p, m => p.shift bound here m
  | seq p q, m =>
    let (a, firstEnded) := p.shift bound here m.first
    let (b, secondEnded) := q.shift bound here m.second
    if firstEnded then
      let (b, holds) := q.enter bound here b
      (a.join b, secondEnded || holds)
    else (a.join b, secondEnded)
  | alt p q, m =>
    let (a, firstEnded) := p.shift bound here m.first
    let (b, secondEnded) := q.shift bound here m.second
    (a.join b, firstEnded || secondEnded)
  | rep least most p, m =>
    let (need, count) := copies bound least most
    let (m, ends, _) :=
      shiftCopies (p.shift bound here) (p.enter bound here) most.isNone count need m
    (if need < count then (dropLater count need idle m).1 else m, ends)

/-! ## All places -/

/-- Whether a match ends in what is left of the text, after its first place. -/
def occursIn (p : Pattern) (bound : Nat) (m : Marks) : List Char → Bool
  | [] => false
  | c :: rest =>
    let here := ⟨some c, rest.head?⟩
    let (m, ended) := p.shift bound here m
    let (m, holds) := p.enter bound here m
    ended || holds || p.occursIn bound m rest

/-- Whether the pattern occurs anywhere in the text. -/
def isMatch (p : Pattern) (text : String) : Bool :=
  let cs := text.toList
  let bound := cs.length + 1
  let (m, holds) := p.enter bound ⟨none, cs.head?⟩ idle
  holds || p.occursIn bound m cs

end Pattern

end SyscallFilter
