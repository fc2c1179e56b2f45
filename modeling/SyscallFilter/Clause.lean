import SyscallFilter.Engine

/-! # Clauses: `action=what:arguments` -/

namespace SyscallFilter

/-- What a clause speaks of. -/
inductive Qualifier where
  | action (kind : ActionKind)
  | signals
  deriving DecidableEq, Repr

namespace Qualifier

def names : List (String × Qualifier) :=
  [("trace", action .trace), ("t", action .trace), ("abbrev", action .brief), ("a", action .brief),
   ("verbose", action .verbose), ("v", action .verbose), ("raw", action .raw), ("x", action .raw),
   ("signal", signals), ("signals", signals), ("s", signals), ("read", action .read),
   ("reads", action .read), ("r", action .read), ("write", action .write), ("writes", action .write),
   ("w", action .write), ("fault", action .fault), ("inject", action .inject)]

def ofName? (name : String) : Option Qualifier := (names.find? (·.1 = name)).map (·.2)

end Qualifier

structure Clause where
  name : String
  main : String
  args : Option String
  deriving DecidableEq, Repr

/-- A text without an equals sign is the main part of a `trace` clause. Otherwise the name ends at the first
equals sign, and the main part at the first colon after that. -/
def Clause.split (text : String) : Clause :=
  match Text.cut '=' text with
  | none => ⟨"trace", text, none⟩
  | some (name, rest) =>
    match Text.cut ':' rest with
    | none => ⟨name, rest, none⟩
    | some (main, args) => ⟨name, main, some args⟩

namespace Builder

/-- The warning that a clause without use for arguments gives about them. -/
def ignored (name : String) (args : Option String) : List Event :=
  match args with
  | some args => [.argumentsIgnored name args]
  | none => []

/-- One more alternative for the action of a kind without arguments. -/
def applyFiltered (b : Builder) (kind : ActionKind) (filterKind : FilterKind) (main : String)
    (args : Option String) : Attempt Builder Unit :=
  let (result, events) := Filter.parse filterKind main b.personalities .clause
  match result with
  | .error e => ⟨.error e, b, events⟩
  | .ok f =>
    let (place, b, created) := b.findOrAdd kind
    ⟨.ok (), b.modifyAction place (·.addAlternative f), events ++ created ++ ignored kind.name args⟩

/-- The signals of a clause replace all others. They are forgotten before the list is read, so a list that
is refused leaves only what was read of it. -/
def applySignals (b : Builder) (main : String) (args : Option String) : Attempt Builder Unit :=
  let (result, signals) := NumberSpec.addTo main .signal Signal.parse? .clause b.signals.clear
  let b := { b with signals }
  match result with
  | .error e => ⟨.error e, b, []⟩
  | .ok () => ⟨.ok (), b, ignored "signal" args⟩

/-- A new action with an injection of its own. -/
def applyInjection (b : Builder) (kind : ActionKind) (main : String) (args : Option String) :
    Attempt Builder Unit :=
  let (result, events) := Filter.parse .syscall main b.personalities .clause
  match result with
  | .error e => ⟨.error e, b, events⟩
  | .ok f =>
    match Injection.parse? args (kind = .fault) .clause with
    | none => ⟨.error (.badArguments kind (args.getD "")), b, events⟩
    | some i =>
      let place := b.actions.length
      let (b, created) := b.addAction kind
      ⟨.ok (), b.modifyAction place fun a => { a.addAlternative f with data := some i },
       events ++ created⟩

def apply (b : Builder) (c : Clause) : Attempt Builder Unit :=
  match Qualifier.ofName? c.name with
  | none => ⟨.error (.unknownAction c.name), b, []⟩
  | some .signals => b.applySignals c.main c.args
  | some (.action kind) =>
    match kind with
    | .read | .write => b.applyFiltered kind .fd c.main c.args
    | .fault | .inject => b.applyInjection kind c.main c.args
    | .trace | .brief | .verbose | .raw => b.applyFiltered kind .syscall c.main c.args

/-- Reads one clause. -/
def qualify (b : Builder) (text : String) : Attempt Builder Unit := b.apply (.split text)

end Builder

end SyscallFilter
