import SyscallFilter.Call

/-! # What can be wrong with a clause, and events for the log -/

namespace SyscallFilter

/-- The numbers that a list can be made of. -/
inductive NumberKind where
  | descriptor
  | signal
  deriving DecidableEq, Repr

def NumberKind.name : NumberKind → String
  | descriptor => "descriptor"
  | signal => "signal"

inductive ClauseError where
  | unknownAction (name : String)
  | unknownCall (token : String)
  | badNumber (kind : NumberKind) (token : String)
  | badPattern (pattern : String)
  | badArguments (kind : ActionKind) (args : String)
  deriving DecidableEq, Repr

/-- The message of an error. Why a pattern is not well formed is told by whoever read it. -/
def ClauseError.message (patternCause : String → String) : ClauseError → String
  | unknownAction name => "invalid filter action '" ++ name ++ "'"
  | unknownCall token => "invalid system call '" ++ token ++ "'"
  | badNumber kind token => "invalid " ++ kind.name ++ " '" ++ token ++ "'"
  | badPattern pattern => "regcomp: " ++ pattern ++ ": " ++ patternCause pattern
  | badArguments kind args => "invalid " ++ kind.name ++ " argument '" ++ args ++ "'"

/-! ## Events -/

/-- Levels from the most urgent down. -/
inductive Level where
  | error
  | warn
  | info
  | debug
  | trace
  deriving DecidableEq, Repr

namespace Level

def rank : Level → Nat
  | error => 1
  | warn => 2
  | info => 3
  | debug => 4
  | trace => 5

def name : Level → String
  | error => "ERROR"
  | warn => "WARN"
  | info => "INFO"
  | debug => "DEBUG"
  | trace => "TRACE"

end Level

/-- The value of a field. A log shows text in quotes and a label bare. -/
inductive FieldValue where
  | number (n : Int)
  | truth (b : Bool)
  | text (s : String)
  | label (s : String)
  deriving DecidableEq, Repr

inductive Event where
  /-- A token of a list of calls was looked up. -/
  | selectorResolved (token : String) (resolved bestEffort : Bool)
  | actionCreated (kind : ActionKind) (id : Nat)
  /-- All clauses are read. -/
  | configured (actions maxFilters : Nat) (defaults : Decisions)
  | actionApplies (pid : Int) (number : Nat) (kind : ActionKind)
  /-- A clause gave arguments to an action without any. -/
  | argumentsIgnored (name args : String)
  deriving DecidableEq, Repr

namespace Event

def level : Event → Level
  | selectorResolved .. | actionCreated .. | configured .. => .debug
  | actionApplies .. => .trace
  | argumentsIgnored .. => .warn

/-- The part of the program that reports the event. -/
def source : Event → String
  | selectorResolved .. => "sysqual::selector"
  | actionCreated .. | configured .. | actionApplies .. => "sysqual::engine"
  | argumentsIgnored .. => "sysqual::qualify"

def message : Event → String
  | selectorResolved .. => "resolved syscall selector"
  | actionCreated .. => "created filter action"
  | configured .. => "filter configuration finished"
  | actionApplies .. => "action applies"
  | argumentsIgnored name args =>
    name ++ " action takes no arguments, ignored arguments '" ++ args ++ "'"

def fields : Event → List (String × FieldValue)
  | selectorResolved token resolved bestEffort =>
    [("token", .text token), ("resolved", .truth resolved), ("best_effort", .truth bestEffort)]
  | actionCreated kind id => [("action", .label kind.name), ("id", .number id)]
  | configured actions maxFilters defaults =>
    [("actions", .number actions), ("max_filters", .number maxFilters),
     ("default_flags", .label defaults.logText)]
  | actionApplies pid number kind =>
    [("pid", .number pid), ("number", .number number), ("action", .label kind.name)]
  | argumentsIgnored .. => []

end Event

/-- What became of a change that can fail: its result, the state it left behind and the events on the
way. -/
structure Attempt (σ α : Type) where
  result : Except ClauseError α
  state : σ
  events : List Event

end SyscallFilter
