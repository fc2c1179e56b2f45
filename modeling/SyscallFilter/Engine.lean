import SyscallFilter.Action

/-! # The engine: which actions apply to a call, and how it is built -/

namespace SyscallFilter

/-- What is done when an action applies: from a state, the call as the action sees it, the kind of action
and what is injected, to a new state and the call as later actions see it. -/
abbrev Handler (σ : Type) := σ → Call → ActionKind → Option Injection → σ × Call

/-- Does nothing, so that only the decisions on the call tell which actions applied. -/
def Handler.none : Handler Unit := fun _ c _ _ => ((), c)

structure Engine where
  personalities : Personalities
  /-- In the order in which they run. -/
  actions : List Action
  defaults : Decisions
  signals : NumberSet
  /-- Room for the results of the filters of one action, used again for every action and call. -/
  results : List Bool
  deriving DecidableEq

namespace Engine

def tracesSignal (e : Engine) (signal : Nat) : Bool := e.signals.contains signal

/-- A call on its way through the actions. -/
structure Run (σ : Type) where
  state : σ
  call : Call
  results : List Bool
  events : List Event

/-- One action: if it applies, its decision is recorded before the handler sees the call. -/
def step {σ : Type} (p : Personalities) (h : Handler σ) (r : Run σ) (a : Action) : Run σ :=
  if a.kind.considers r.call then
    let (applies, results) := a.evaluate r.call p r.results
    if applies then
      let event := Event.actionApplies r.call.pid r.call.number a.kind
      let decided := { r.call with decisions := r.call.decisions.insert a.kind.decision }
      let (state, call) := h r.state decided a.kind a.data
      ⟨state, call, results, r.events ++ [event]⟩
    else { r with results }
  else r

/-- Runs a call through all actions in order. -/
def dispatch {σ : Type} (e : Engine) (h : Handler σ) (state : σ) (c : Call) : Engine × Run σ :=
  let start : Run σ := ⟨state, { c with decisions := c.decisions.union e.defaults }, e.results, []⟩
  let r := e.actions.foldl (step e.personalities h) start
  ({ e with results := r.results }, r)

end Engine

/-! ## Building an engine -/

structure Builder where
  personalities : Personalities
  /-- In the order of creation. -/
  actions : List Action
  defaults : Decisions
  signals : NumberSet
  /-- The paths that tracing is limited to, if there are any. -/
  paths : PathSet
  deriving DecidableEq

namespace Builder

/-- No actions; all signals are traced. -/
def new (p : Personalities) : Builder := ⟨p, [], .default, NumberSet.empty.invert, .empty⟩

def tracePath (b : Builder) (path : String) : Builder := { b with paths := b.paths.select path }

def modifyAction (b : Builder) (place : Nat) (f : Action → Action) : Builder :=
  { b with actions := b.actions.modify place f }

/-- Adds an action; its decision is no longer made by default. -/
def addAction (b : Builder) (kind : ActionKind) : Builder × List Event :=
  let id := b.actions.length
  ({ b with actions := b.actions ++ [.new id kind], defaults := b.defaults.erase kind.decision },
   [.actionCreated kind id])

/-- The place of an action of a kind, which is new if the kind takes arguments or there is none yet. -/
def findOrAdd (b : Builder) (kind : ActionKind) : Nat × Builder × List Event :=
  let existing := if kind.takesArgs then none else b.actions.findIdx? (·.kind = kind)
  match existing with
  | some place => (place, b, [])
  | none => (b.actions.length, b.addAction kind)

def findOrAddNamed (b : Builder) (name : String) : Except ClauseError (Nat × Builder × List Event) :=
  match ActionKind.ofName? name with
  | some kind => .ok (b.findOrAdd kind)
  | none => .error (.unknownAction name)

/-- Limits tracing to the selected paths. Where nothing is traced by a clause, every call is. -/
def limitToPaths (b : Builder) : Builder × List Event :=
  let (place, b, events) := b.findOrAdd .trace
  let b := b.modifyAction place fun a =>
    let a := if a.filters.isEmpty then a.addAlternative (.allCalls b.personalities) else a
    { a.addFilter (.path b.paths) with condition := a.condition.and ⟨a.filters.length, false⟩ }
  (b, events)

/-- Whether an action runs no later than another: by priority, and of equal priority the newer first. -/
def runsBefore (a b : Action) : Bool :=
  a.kind.priority < b.kind.priority || (a.kind.priority = b.kind.priority && b.id ≤ a.id)

/-- The longest list of filters. -/
def maxFilters (actions : List Action) : Nat := actions.foldl (fun n a => max n a.filters.length) 0

def finish (b : Builder) : Engine × List Event :=
  let (b, events) := if b.paths.isEmpty then (b, []) else b.limitToPaths
  let actions := b.actions.mergeSort runsBefore
  let room := maxFilters actions
  (⟨b.personalities, actions, b.defaults, b.signals, .replicate room false⟩,
   events ++ [.configured actions.length room b.defaults])

end Builder

end SyscallFilter
