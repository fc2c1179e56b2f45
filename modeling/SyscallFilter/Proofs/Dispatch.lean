import SyscallFilter.Engine

/-!
# Dispatch without room for results

The engine writes the results of filters over one list, for every action and every call. `walk` is the same
dispatch without that list, and no handler can tell the two apart.
-/

namespace SyscallFilter

/-! ## Actions by their own filters -/

/-- A literal, read off the filters that it counts. A missing filter counts as false. -/
def Literal.holds (l : Literal) (filters : List Filter) (c : Call) (p : Personalities) : Bool :=
  filters[l.index]?.any (·.holds c p) != l.negated

def Action.applies (a : Action) (c : Call) (p : Personalities) : Bool :=
  a.condition.clauses.any fun clause => clause.all (·.holds a.filters c p)

theorem Literal.eval_results (l : Literal) (filters : List Filter) (c : Call) (p : Personalities) :
    l.eval (filters.map (·.holds c p)) = l.holds filters c p := by
  unfold Literal.eval Literal.holds
  rw [List.getElem?_map]
  cases filters[l.index]? <;> rfl

theorem Action.holds_eq_applies (a : Action) (c : Call) (p : Personalities) :
    a.holds c p = a.applies c p := by
  unfold Action.holds Action.applies Condition.eval
  simp only [Literal.eval_results]

theorem Action.applies_congr {a : Action} {p : Personalities} {c c' : Call}
    (same : ∀ f ∈ a.filters, f.holds c' p = f.holds c p) : a.applies c' p = a.applies c p := by
  have each (l : Literal) : l.holds a.filters c' p = l.holds a.filters c p := by
    unfold Literal.holds
    cases known : a.filters[l.index]? with
    | none => rfl
    | some f => rw [Option.any_some, Option.any_some, same f (List.mem_of_getElem? known)]
  unfold applies
  simp only [each]

theorem Action.evaluate_of_room (a : Action) (c : Call) (p : Personalities) (results : List Bool)
    (room : a.filters.length ≤ results.length) :
    a.evaluate c p results =
      (a.applies c p, a.filters.map (·.holds c p) ++ results.drop a.filters.length) := by
  have own : (a.filters.map (·.holds c p) ++ results.drop a.filters.length).take a.filters.length =
      a.filters.map (·.holds c p) := List.take_left' (List.length_map _)
  unfold Action.evaluate
  simp only [if_neg (Nat.not_lt.mpr room), own]
  rw [← Action.holds_eq_applies]
  rfl

/-! ## The walk -/

/-- The call as an action leaves it to its handler. -/
def Call.decided (c : Call) (k : ActionKind) : Call := { c with decisions := c.decisions.insert k.decision }

structure Invocation where
  call : Call
  kind : ActionKind
  data : Option Injection
  deriving DecidableEq

/-- What comes of a walk: how the handler was called, and what it left. -/
structure Outcome (σ : Type) where
  log : List Invocation
  state : σ
  call : Call

namespace Engine

variable {σ : Type}

/-- Runs a call through actions in order. Each sees the call as the ones before it left it. -/
def walk (p : Personalities) (h : Handler σ) : List Action → σ → Call → Outcome σ
  | [], state, c => ⟨[], state, c⟩
  | a :: rest, state, c =>
    if a.kind.considers c && a.applies c p then
      let seen := c.decided a.kind
      let next := h state seen a.kind a.data
      let after := walk p h rest next.1 next.2
      { after with log := ⟨seen, a.kind, a.data⟩ :: after.log }
    else walk p h rest state c

/-- A call with what is decided for every call. -/
def enter (e : Engine) (c : Call) : Call := { c with decisions := c.decisions.union e.defaults }

/-! ## One action -/

theorem step_eq (p : Personalities) (h : Handler σ) (r : Run σ) (a : Action)
    (room : a.filters.length ≤ r.results.length) :
    (step p h r a).results.length = r.results.length ∧
      ((step p h r a).state, (step p h r a).call) =
        if a.kind.considers r.call && a.applies r.call p then
          h r.state (r.call.decided a.kind) a.kind a.data
        else (r.state, r.call) := by
  have length : (a.filters.map (·.holds r.call p) ++ r.results.drop a.filters.length).length =
      r.results.length := by
    rw [List.length_append, List.length_map, List.length_drop]
    omega
  unfold step
  rw [Action.evaluate_of_room a r.call p r.results room]
  cases a.kind.considers r.call with
  | false => exact ⟨rfl, rfl⟩
  | true =>
    cases a.applies r.call p with
    | false => exact ⟨length, rfl⟩
    | true => exact ⟨length, rfl⟩

/-! ## All actions -/

theorem foldl_step_eq_walk (p : Personalities) (h : Handler σ) (as : List Action) (r : Run σ)
    (room : ∀ a ∈ as, a.filters.length ≤ r.results.length) :
    (as.foldl (step p h) r).state = (walk p h as r.state r.call).state ∧
      (as.foldl (step p h) r).call = (walk p h as r.state r.call).call ∧
      (as.foldl (step p h) r).results.length = r.results.length := by
  induction as generalizing r with
  | nil => exact ⟨rfl, rfl, rfl⟩
  | cons a rest ih =>
    obtain ⟨hlength, hnext⟩ := step_eq p h r a (room a List.mem_cons_self)
    have later : ∀ b ∈ rest, b.filters.length ≤ (step p h r a).results.length := by
      intro b hb
      rw [hlength]
      exact room b (List.mem_cons_of_mem a hb)
    obtain ⟨hstate, hcall, hkept⟩ := ih (step p h r a) later
    rw [List.foldl_cons, walk, hstate, hcall, hkept, hlength]
    split at hnext
    · next yes =>
      simp only [if_pos yes, ← hnext, and_self]
    · next no =>
      obtain ⟨hs, hc⟩ := Prod.mk.inj hnext
      rw [if_neg no, hs, hc]
      exact ⟨rfl, rfl, rfl⟩

/-- An engine has room for the results of each of its actions. -/
def Roomy (e : Engine) : Prop := ∀ a ∈ e.actions, a.filters.length ≤ e.results.length

theorem dispatch_of_roomy (e : Engine) (room : e.Roomy) (h : Handler σ) (s : σ) (c : Call) :
    (e.dispatch h s c).2.state = (walk e.personalities h e.actions s (e.enter c)).state ∧
      (e.dispatch h s c).2.call = (walk e.personalities h e.actions s (e.enter c)).call :=
  let ⟨hstate, hcall, _⟩ := foldl_step_eq_walk e.personalities h e.actions ⟨s, e.enter c, e.results, []⟩ room
  ⟨hstate, hcall⟩

/-! ## Handlers that keep a record -/

def recording (h : Handler σ) : Handler (List Invocation × σ) := fun state c k data =>
  let next := h state.2 c k data
  ((state.1 ++ [⟨c, k, data⟩], next.1), next.2)

theorem walk_recording (p : Personalities) (h : Handler σ) (as : List Action) (log : List Invocation)
    (s : σ) (c : Call) :
    (walk p (recording h) as (log, s) c).state =
        (log ++ (walk p h as s c).log, (walk p h as s c).state) ∧
      (walk p (recording h) as (log, s) c).call = (walk p h as s c).call := by
  induction as generalizing log s c with
  | nil => exact ⟨by rw [walk, walk, List.append_nil], rfl⟩
  | cons a rest ih =>
    rw [walk, walk]
    split
    · obtain ⟨hstate, hcall⟩ := ih (log ++ [⟨c.decided a.kind, a.kind, a.data⟩])
        (h s (c.decided a.kind) a.kind a.data).1 (h s (c.decided a.kind) a.kind a.data).2
      refine ⟨hstate.trans ?_, hcall⟩
      rw [List.append_assoc]
      rfl
    · exact ih log s c

/-! ## Engines that were used before -/

/-- A call that was dispatched earlier, with its handler. -/
structure Turn where
  State : Type
  handler : Handler State
  state : State
  call : Call

def after (e : Engine) (history : List Turn) : Engine :=
  history.foldl (fun e t => (e.dispatch t.handler t.state t.call).1) e

/-- Two engines that differ at most in the results that they hold. -/
structure Alike (e e' : Engine) : Prop where
  personalities : e'.personalities = e.personalities
  actions : e'.actions = e.actions
  defaults : e'.defaults = e.defaults
  signals : e'.signals = e.signals

theorem Alike.enter {e e' : Engine} (alike : Alike e e') (c : Call) : e'.enter c = e.enter c := by
  unfold Engine.enter
  rw [alike.defaults]

theorem Alike.trans {e e' e'' : Engine} (h : Alike e e') (h' : Alike e' e'') : Alike e e'' :=
  ⟨h'.personalities.trans h.personalities, h'.actions.trans h.actions, h'.defaults.trans h.defaults,
    h'.signals.trans h.signals⟩

theorem alike_dispatch (e : Engine) (h : Handler σ) (s : σ) (c : Call) : Alike e (e.dispatch h s c).1 :=
  ⟨rfl, rfl, rfl, rfl⟩

theorem roomy_dispatch (e : Engine) (room : e.Roomy) (h : Handler σ) (s : σ) (c : Call) :
    (e.dispatch h s c).1.Roomy := by
  intro a ha
  obtain ⟨_, _, hlength⟩ :=
    foldl_step_eq_walk e.personalities h e.actions ⟨s, e.enter c, e.results, []⟩ room
  calc a.filters.length ≤ e.results.length := room a ha
    _ = (e.dispatch h s c).1.results.length := hlength.symm

theorem after_invariant (e : Engine) (room : e.Roomy) (history : List Turn) :
    Alike e (e.after history) ∧ (e.after history).Roomy := by
  induction history generalizing e with
  | nil => exact ⟨⟨rfl, rfl, rfl, rfl⟩, room⟩
  | cons t rest ih =>
    obtain ⟨alike, roomy⟩ := ih (e.dispatch t.handler t.state t.call).1
      (roomy_dispatch e room t.handler t.state t.call)
    exact ⟨(alike_dispatch e t.handler t.state t.call).trans alike, roomy⟩

end Engine

/-! ## Finished engines -/

theorem Builder.foldl_max_filters (as : List Action) (n : Nat) :
    n ≤ as.foldl (fun n a => max n a.filters.length) n ∧
      ∀ a ∈ as, a.filters.length ≤ as.foldl (fun n a => max n a.filters.length) n := by
  induction as generalizing n with
  | nil => exact ⟨Nat.le_refl n, nofun⟩
  | cons b rest ih =>
    obtain ⟨hn, hrest⟩ := ih (max n b.filters.length)
    rw [List.foldl_cons]
    refine ⟨Nat.le_trans (Nat.le_max_left _ _) hn, ?_⟩
    intro a ha
    rcases List.mem_cons.mp ha with rfl | ha
    · exact Nat.le_trans (Nat.le_max_right _ _) hn
    · exact hrest a ha

theorem Builder.finish_roomy (b : Builder) : b.finish.1.Roomy := by
  intro a ha
  have room := (Builder.foldl_max_filters b.finish.1.actions 0).2 a ha
  have size : b.finish.1.results.length = Builder.maxFilters b.finish.1.actions :=
    List.length_replicate
  rw [size]
  exact room

namespace Engine

theorem dispatch_after {σ : Type} (b : Builder) (history : List Turn) (h : Handler σ) (s : σ) (c : Call) :
    let run := ((b.finish.1.after history).dispatch h s c).2
    let expected := walk b.finish.1.personalities h b.finish.1.actions s (b.finish.1.enter c)
    run.state = expected.state ∧ run.call = expected.call := by
  intro run expected
  obtain ⟨alike, roomy⟩ := after_invariant b.finish.1 b.finish_roomy history
  obtain ⟨state, call⟩ := dispatch_of_roomy (b.finish.1.after history) roomy h s c
  rw [alike.personalities, alike.actions, alike.enter] at state call
  exact ⟨state, call⟩

theorem call_after {σ : Type} (b : Builder) (history : List Turn) (h : Handler σ) (s : σ) (c : Call) :
    ((b.finish.1.after history).dispatch h s c).2.call = (b.finish.1.dispatch h s c).2.call := by
  obtain ⟨-, used⟩ := dispatch_after b history h s c
  obtain ⟨-, fresh⟩ := dispatch_after b [] h s c
  exact used.trans fresh.symm

/-- Whatever was dispatched before, a finished engine calls the handler as often, with the same calls, kinds and
injections and in the same order as the walk does, and leaves the same state and the same call. Nothing but
the room for results ever changes. -/
theorem dispatch_eq_walk {σ : Type} (b : Builder) (history : List Turn) (h : Handler σ) (s : σ) (c : Call) :
    let e := b.finish.1
    let used := e.after history
    let expected := walk e.personalities h e.actions s (e.enter c)
    (used.dispatch (recording h) ([], s) c).2.state = (expected.log, expected.state) ∧
      (used.dispatch (recording h) ([], s) c).2.call = expected.call ∧
      (used.dispatch h s c).2.state = expected.state ∧
      (used.dispatch h s c).2.call = expected.call ∧
      Alike e (used.dispatch h s c).1 := by
  intro e used expected
  obtain ⟨alike, roomy⟩ := after_invariant e b.finish_roomy history
  obtain ⟨hstate, hcall⟩ := dispatch_of_roomy used roomy h s c
  obtain ⟨hlog, hseen⟩ := dispatch_of_roomy used roomy (recording h) ([], s) c
  obtain ⟨wlog, wcall⟩ := walk_recording e.personalities h e.actions [] s (e.enter c)
  rw [alike.personalities, alike.actions, alike.enter] at hstate hcall hlog hseen
  rw [wlog, List.nil_append] at hlog
  rw [wcall] at hseen
  exact ⟨hlog, hseen, hstate, hcall, alike.trans (alike_dispatch used h s c)⟩

end Engine

end SyscallFilter
