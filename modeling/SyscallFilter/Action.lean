import SyscallFilter.Filter
import SyscallFilter.Injection

/-! # Actions: a condition over filters, and what is done when it holds -/

namespace SyscallFilter

/-! ## Conditions over numbered results

A condition is an alternative of conjunctions of results, each taken as it is or negated. -/

/-- The result with a number, or its negation. -/
structure Literal where
  index : Nat
  negated : Bool
  deriving DecidableEq, Repr

structure Condition where
  clauses : List (List Literal)
  deriving DecidableEq, Repr

/-- A result that is missing counts as false. -/
def Literal.eval (l : Literal) (results : List Bool) : Bool :=
  results[l.index]?.getD false ^^ l.negated

def Literal.text (l : Literal) : String :=
  (if l.negated then "!" else "") ++ "$" ++ toString l.index

namespace Condition

/-- The condition that nothing has been said about, which is false. -/
def empty : Condition := ⟨[]⟩

/-- `c` and the literal. On the empty condition it is the literal alone. -/
def and (c : Condition) (l : Literal) : Condition :=
  match c.clauses with
  | [] => ⟨[[l]]⟩
  | clauses => ⟨clauses.map (· ++ [l])⟩

/-- `c` or the result with a number. -/
def or (c : Condition) (index : Nat) : Condition := ⟨c.clauses ++ [[⟨index, false⟩]]⟩

def eval (c : Condition) (results : List Bool) : Bool :=
  c.clauses.any fun clause => clause.all fun l => l.eval results

def isEmpty (c : Condition) : Bool := c.clauses.isEmpty

/-- The largest number that occurs. -/
def maxIndex? (c : Condition) : Option Nat := (c.clauses.flatten.map Literal.index).max?

/-- A conjunction of several literals is in brackets if there are other alternatives. -/
def text (c : Condition) : String :=
  match c.clauses with
  | [] => "false"
  | clauses =>
    let several := 1 < clauses.length
    String.intercalate " || " (clauses.map fun clause =>
      let body := String.intercalate " && " (clause.map Literal.text)
      if several && 1 < clause.length then "(" ++ body ++ ")" else body)

end Condition

/-! ## Actions -/

structure Action where
  /-- Its place in the order of creation. -/
  id : Nat
  kind : ActionKind
  condition : Condition
  filters : List Filter
  /-- What is injected, for kinds with arguments. -/
  data : Option Injection
  deriving DecidableEq

namespace Action

def new (id : Nat) (kind : ActionKind) : Action := ⟨id, kind, .empty, [], none⟩

/-- Adds a filter, which the condition does not speak of yet. -/
def addFilter (a : Action) (f : Filter) : Action := { a with filters := a.filters ++ [f] }

/-- Adds a filter as one more alternative. -/
def addAlternative (a : Action) (f : Filter) : Action :=
  { a.addFilter f with condition := a.condition.or a.filters.length }

/-- Whether the condition only speaks of filters that there are. -/
def wellFormed (a : Action) : Bool :=
  match a.condition.maxIndex? with
  | some i => i < a.filters.length
  | none => true

/-- Whether the action applies to a call. -/
def holds (a : Action) (c : Call) (p : Personalities) : Bool :=
  a.condition.eval (a.filters.map (·.holds c p))

/-- The same with the results of the filters written over the start of a list of results, which is handed
on. A list that is too short is left alone, and the action then does not apply. -/
def evaluate (a : Action) (c : Call) (p : Personalities) (results : List Bool) : Bool × List Bool :=
  let count := a.filters.length
  if results.length < count then (false, results)
  else
    let results := a.filters.map (·.holds c p) ++ results.drop count
    (a.condition.eval (results.take count), results)

end Action

end SyscallFilter
