import SyscallFilter.Event
import SyscallFilter.Name
import SyscallFilter.NumberSet
import SyscallFilter.Pattern.Marks
import SyscallFilter.Pattern.Parser
import SyscallFilter.Table

/-! # Lists of calls and lists of numbers -/

namespace SyscallFilter

/-! ## Selectors: what one token of a list of calls stands for -/

/-- Where a list stands. Inside a clause, bare words for classes and leading exclamation marks are
understood. -/
inductive Mode where
  | clause
  | plain
  deriving DecidableEq, Repr

inductive Selector where
  | number (n : Nat)
  /-- The calls whose names match, with the pattern as written. -/
  | pattern (text : String) (p : Pattern)
  | classOf (c : SyscallClass)
  | name (s : String)

namespace Selector

/-- A token that starts like a numeral is one or stands for nothing; a token after a slash is a pattern;
then come the words for classes, and all else is a name. -/
def parse (token : String) (mode : Mode) : Except ClauseError (Option Selector) :=
  if Numeral.startsWithDigit token then .ok ((Numeral.number? token).map number)
  else
    match Text.after? "/" token with
    | some text =>
      match Pattern.parse? text with
      | some p => .ok (some (pattern text p))
      | none => .error (.badPattern text)
    | none =>
      match SyscallClass.byWord? token (mode = .clause) with
      | some c => .ok (some (classOf c))
      | none => .ok (some (name token))

/-- The numbers in a table that a selector stands for. -/
def numbers (sel : Selector) (t : Table) : List Nat :=
  match sel with
  | number n => if n < t.size then [n] else []
  | pattern _ p => (t.allocated.filter fun (_, called, _) => p.isMatch called).map (·.1)
  | classOf c => (t.allocated.filter fun (_, _, classes) => classes.has c).map (·.1)
  | name s => (t.allocated.filter fun (_, called, _) => called = s).map (·.1)

def isClass : Selector → Bool
  | classOf _ => true
  | _ => false

/-- Adds what a selector stands for to one set for each table. It resolves if that is anything in any
table; a class always does. -/
def resolve (sel : Selector) (tables : List Table) (sets : List NumberSet) : Bool × List NumberSet :=
  let found := tables.map sel.numbers
  (sel.isClass || found.any (!·.isEmpty), List.zipWith NumberSet.addAll sets found)

end Selector

/-! ## Marks in front of a list -/

/-- The exclamation marks in front of a list, which only a clause has, and the list itself. -/
def Mode.negations (mode : Mode) (spec : String) : Nat × String :=
  match mode with
  | .clause => Text.leading '!' spec
  | .plain => (0, spec)

/-! ## Calls -/

namespace CallSpec

/-- Adds what some tokens stand for. A token with question marks in front may stand for nothing. The result
says whether any token, or `any` before them, stood for something. -/
def addTokens (mode : Mode) (tables : List Table) :
    List String → Bool → List NumberSet → Attempt (List NumberSet) Bool
  | [], any, sets => ⟨.ok any, sets, []⟩
  | token :: rest, any, sets =>
    let (marks, body) := Text.leading '?' token
    match Selector.parse body mode with
    | .error e => ⟨.error e, sets, []⟩
    | .ok sel =>
      let (resolved, sets) :=
        match sel with
        | some sel => sel.resolve tables sets
        | none => (false, sets)
      let event := Event.selectorResolved token resolved (marks != 0)
      if resolved || marks != 0 then
        let next := addTokens mode tables rest (any || resolved) sets
        { next with events := event :: next.events }
      else ⟨.error (.unknownCall token), sets, [event]⟩

/-- Adds a list of calls to one set for each table. Every exclamation mark inverts all sets; `none` adds
nothing and `all` inverts once more. A list that names nothing is refused. -/
def addTo (spec : String) (mode : Mode) (tables : List Table) (sets : List NumberSet) :
    Attempt (List NumberSet) Unit :=
  let (negations, body) := mode.negations spec
  let sets := sets.map (·.invertTimes negations)
  if body = "none" then ⟨.ok (), sets, []⟩
  else if body = "all" then ⟨.ok (), sets.map NumberSet.invert, []⟩
  else
    let done := addTokens mode tables (Text.tokens ',' body) false sets
    match done.result with
    | .error e => { done with result := .error e }
    | .ok true => { done with result := .ok () }
    | .ok false => { done with result := .error (.unknownCall spec) }

end CallSpec

/-! ## Numbers -/

namespace NumberSpec

def addTokens (kind : NumberKind) (resolve : String → Option Nat) :
    List String → NumberSet → Except ClauseError Unit × NumberSet
  | [], set => (.ok (), set)
  | token :: rest, set =>
    match resolve token with
    | some n => addTokens kind resolve rest (set.add n)
    | none => (.error (.badNumber kind token), set)

/-- Adds a list of numbers to a set, each read by `resolve`. Marks and words are those of lists of calls. -/
def addTo (spec : String) (kind : NumberKind) (resolve : String → Option Nat) (mode : Mode)
    (set : NumberSet) : Except ClauseError Unit × NumberSet :=
  let (negations, body) := mode.negations spec
  let set := set.invertTimes negations
  if body = "none" then (.ok (), set)
  else if body = "all" then (.ok (), set.invert)
  else
    match Text.tokens ',' body with
    | [] => (.error (.badNumber kind spec), set)
    | tokens => addTokens kind resolve tokens set

end NumberSpec

/-- How the tokens of a list of this kind are read. -/
def NumberKind.parse? : NumberKind → String → Option Nat
  | .descriptor => Numeral.number?
  | .signal => Signal.parse?

end SyscallFilter
