import SyscallFilter.Flags

/-! # Stopped calls, the decisions about them and the kinds of actions -/

namespace SyscallFilter

/-- A decision that actions record on a call. -/
inductive Decision where
  | trace
  | brief
  | verbose
  | raw
  | inject
  | read
  | write
  deriving DecidableEq, Repr

instance : Flag Decision where
  all := [.trace, .brief, .verbose, .raw, .inject, .read, .write]
  bit
    | .trace => 0
    | .brief => 1
    | .verbose => 2
    | .raw => 3
    | .inject => 4
    | .read => 5
    | .write => 6
  name
    | .trace => "TRACE"
    | .brief => "ABBREV"
    | .verbose => "VERBOSE"
    | .raw => "RAW"
    | .inject => "INJECT"
    | .read => "READ"
    | .write => "WRITE"

abbrev Decisions := Flags Decision

namespace Decisions

/-- What is decided for every call unless a clause speaks of it. -/
def default : Decisions := .ofList [.trace, .brief, .verbose]

/-- The text that stands for a value in a log. -/
def logText (d : Decisions) : String :=
  let inner := if d.bits = 0 then "0x0" else d.text
  "QualFlags(" ++ inner ++ ")"

end Decisions

/-- A process stopped at the entry of a call. -/
structure Call where
  pid : Int
  /-- The number of its personality. -/
  personality : Nat
  /-- The number of the call, which may be in no table. -/
  number : Nat
  args : Vector UInt64 6
  /-- The paths among its arguments. -/
  paths : List String
  decisions : Decisions
  deriving DecidableEq

namespace Call

/-- A call with all arguments zero. -/
def new (personality number : Nat) : Call :=
  ⟨0, personality, number, .replicate 6 0, [], .empty⟩

/-- An argument as a signed number: only its low 32 bits count. -/
def descriptor (c : Call) (position : Fin 6) : Int := c.args[position].toUInt32.toInt32.toInt

def descriptor? (c : Call) (position : Nat) : Option Int :=
  if h : position < 6 then some (c.descriptor ⟨position, h⟩) else none

def isTraced (c : Call) : Bool := c.decisions.has .trace

def notInjected (c : Call) : Bool := !c.decisions.has .inject

end Call

/-! ## Kinds of actions -/

inductive ActionKind where
  | trace
  | inject
  | fault
  | read
  | write
  | raw
  | brief
  | verbose
  deriving DecidableEq, Repr

namespace ActionKind

def all : List ActionKind := [trace, inject, fault, read, write, raw, brief, verbose]

def name : ActionKind → String
  | trace => "trace"
  | inject => "inject"
  | fault => "fault"
  | read => "read"
  | write => "write"
  | raw => "raw"
  | brief => "abbrev"
  | verbose => "verbose"

def ofName? (name : String) : Option ActionKind := all.find? (·.name = name)

/-- Actions of a smaller priority run first. -/
def priority : ActionKind → Nat
  | trace => 0
  | inject | fault => 1
  | read | write | raw | brief | verbose => 2

/-- The decision that an action of this kind records. -/
def decision : ActionKind → Decision
  | trace => .trace
  | inject | fault => .inject
  | read => .read
  | write => .write
  | raw => .raw
  | brief => .brief
  | verbose => .verbose

/-- Kinds with arguments get a new action for every clause, the others share one. -/
def takesArgs : ActionKind → Bool
  | inject | fault => true
  | _ => false

def onByDefault (k : ActionKind) : Bool := Decisions.default.has k.decision

/-- Whether an action looks at a call at all: a call is injected into once, and only a traced call is
shown. -/
def considers (k : ActionKind) (c : Call) : Bool :=
  match k with
  | trace => true
  | inject | fault => c.notInjected
  | read | write | raw | brief | verbose => c.isTraced

end ActionKind

end SyscallFilter
