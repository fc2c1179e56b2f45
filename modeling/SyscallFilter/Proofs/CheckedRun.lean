import SyscallFilter.Proofs.CheckedReading
import SyscallFilter.Proofs.Interleaving

/-!
# Runs and calls without a fault

What configures an engine and sends calls through it, with every operation on the way that is not defined for all
arguments. None of them meets a fault, whatever is configured and whatever calls are sent.
-/

namespace SyscallFilter

namespace Checked

/-! ## Actions -/

/-- Adds a filter, and says at which place. -/
def addFilter (a : Action) (f : Filter) : Checked (Nat × Action) := do
  let a := a.addFilter f
  let place ← sub a.filters.length 1
  .ok (place, a)

theorem addFilter_eq (a : Action) (f : Filter) : addFilter a f = .ok (a.filters.length, a.addFilter f) := by
  have length : (a.addFilter f).filters.length = a.filters.length + 1 := List.length_append
  unfold addFilter
  simp only [length, sub_eq_ok (Nat.le_add_left 1 _), Nat.add_sub_cancel, ok_bind]

def addAlternative (a : Action) (f : Filter) : Checked Action := do
  let (place, a) ← addFilter a f
  .ok { a with condition := a.condition.or place }

theorem addAlternative_eq (a : Action) (f : Filter) : addAlternative a f = .ok (a.addAlternative f) := by
  unfold addAlternative
  rw [addFilter_eq]
  rfl

def modifyAction (b : Builder) (place : Nat) (f : Action → Checked Action) : Checked Builder := do
  let a ← get b.actions place
  let a ← f a
  .ok { b with actions := b.actions.set place a }

theorem modifyAction_eq {b : Builder} {place : Nat} {f : Action → Checked Action} {g : Action → Action}
    (inside : place < b.actions.length) (same : ∀ a, f a = .ok (g a)) :
    modifyAction b place f = .ok (b.modifyAction place g) := by
  have modified : b.actions.modify place g = b.actions.set place (g b.actions[place]) := by
    rw [List.modify_eq_set_getElem?, List.getElem?_eq_getElem inside]
    rfl
  unfold modifyAction Builder.modifyAction
  simp only [get_eq_ok inside, same, ok_bind, modified]

/-- A new action, and its place. -/
def addAction (b : Builder) (kind : ActionKind) : Checked (Nat × Builder × List Event) := do
  let (b, created) := b.addAction kind
  let last ← sub b.actions.length 1
  .ok (last, b, created)

theorem addAction_eq (b : Builder) (kind : ActionKind) :
    addAction b kind = .ok (b.actions.length, b.addAction kind) := by
  unfold addAction
  simp only [Builder.length_addAction, sub_eq_ok (Nat.le_add_left 1 _), Nat.add_sub_cancel, ok_bind]

def findOrAdd (b : Builder) (kind : ActionKind) : Checked (Nat × Builder × List Event) :=
  match if kind.takesArgs then none else b.actions.findIdx? (·.kind = kind) with
  | some place => .ok (place, b, [])
  | none => addAction b kind

theorem findOrAdd_eq (b : Builder) (kind : ActionKind) : findOrAdd b kind = .ok (b.findOrAdd kind) := by
  unfold findOrAdd Builder.findOrAdd
  cases if kind.takesArgs then none else b.actions.findIdx? (·.kind = kind) with
  | some place => rfl
  | none => exact addAction_eq b kind

/-! ## Clauses -/

def applyFiltered (b : Builder) (kind : ActionKind) (filterKind : FilterKind) (main : String)
    (args : Option String) : Checked (Attempt Builder Unit) := do
  let (result, events) ← parseFilter filterKind main b.personalities .clause
  match result with
  | .error e => .ok ⟨.error e, b, events⟩
  | .ok f =>
    let (place, b, created) ← findOrAdd b kind
    let b ← modifyAction b place (addAlternative · f)
    .ok ⟨.ok (), b, events ++ created ++ Builder.ignored kind.name args⟩

def applySignals (b : Builder) (main : String) (args : Option String) : Checked (Attempt Builder Unit) := do
  let (result, signals) ← addNumbers main .signal signal? .clause b.signals.clear
  let b := { b with signals }
  match result with
  | .error e => .ok ⟨.error e, b, []⟩
  | .ok () => .ok ⟨.ok (), b, Builder.ignored "signal" args⟩

def applyInjection (b : Builder) (kind : ActionKind) (main : String) (args : Option String) :
    Checked (Attempt Builder Unit) := do
  let (result, events) ← parseFilter .syscall main b.personalities .clause
  match result with
  | .error e => .ok ⟨.error e, b, events⟩
  | .ok f =>
    match ← parseInjection args (kind = .fault) .clause with
    | none => .ok ⟨.error (.badArguments kind (args.getD "")), b, events⟩
    | some i =>
      let (place, b, created) ← addAction b kind
      let b ← modifyAction b place fun a => do
        let a ← addAlternative a f
        .ok { a with data := some i }
      .ok ⟨.ok (), b, events ++ created⟩

def apply (b : Builder) (c : Clause) : Checked (Attempt Builder Unit) :=
  match Qualifier.ofName? c.name with
  | none => .ok ⟨.error (.unknownAction c.name), b, []⟩
  | some .signals => applySignals b c.main c.args
  | some (.action kind) =>
    match kind with
    | .read | .write => applyFiltered b kind .fd c.main c.args
    | .fault | .inject => applyInjection b kind c.main c.args
    | .trace | .brief | .verbose | .raw => applyFiltered b kind .syscall c.main c.args

/-- Reads one clause. -/
def qualify (b : Builder) (text : String) : Checked (Attempt Builder Unit) := apply b (.split text)

section Clauses

variable {b : Builder} (small : SmallTables b.personalities.tables)

include small

theorem applyFiltered_eq (kind : ActionKind) (filterKind : FilterKind) (main : String) (args : Option String) :
    applyFiltered b kind filterKind main args = .ok (b.applyFiltered kind filterKind main args) := by
  unfold applyFiltered Builder.applyFiltered
  rw [parseFilter_eq small, ok_bind]
  rcases Filter.parse filterKind main b.personalities .clause with ⟨_ | f, events⟩
  · rfl
  · have modified := modifyAction_eq (b.lt_length_findOrAdd kind) (addAlternative_eq · f)
    simp only [findOrAdd_eq, modified, ok_bind]

omit small in
theorem applySignals_eq (main : String) (args : Option String) :
    applySignals b main args = .ok (b.applySignals main args) := by
  unfold applySignals Builder.applySignals
  rw [addNumbers_eq signal?_eq signal_lt, ok_bind]
  rcases NumberSpec.addTo main .signal Signal.parse? .clause b.signals.clear with ⟨_ | _, signals⟩ <;> rfl

theorem applyInjection_eq (kind : ActionKind) (main : String) (args : Option String) :
    applyInjection b kind main args = .ok (b.applyInjection kind main args) := by
  unfold applyInjection Builder.applyInjection
  rw [parseFilter_eq small, ok_bind]
  rcases Filter.parse .syscall main b.personalities .clause with ⟨_ | f, events⟩
  · rfl
  · dsimp only
    rw [parseInjection_eq, ok_bind]
    cases Injection.parse? args (kind = .fault) .clause with
    | none => rfl
    | some i =>
      have inside : b.actions.length < (b.addAction kind).1.actions.length :=
        b.length_addAction kind ▸ Nat.lt_succ_self _
      have modified := modifyAction_eq (g := fun a => { a.addAlternative f with data := some i }) inside
        (f := fun a => do
          let a ← addAlternative a f
          .ok { a with data := some i })
        fun a => by rw [addAlternative_eq, ok_bind]
      simp only [addAction_eq, modified, ok_bind]

theorem apply_eq (c : Clause) : apply b c = .ok (b.apply c) := by
  unfold apply Builder.apply
  rcases Qualifier.ofName? c.name with _ | kind | _
  · rfl
  · cases kind with
    | read | write => exact applyFiltered_eq small _ .fd c.main c.args
    | fault | inject => exact applyInjection_eq small _ c.main c.args
    | trace | brief | verbose | raw => exact applyFiltered_eq small _ .syscall c.main c.args
  · exact applySignals_eq c.main c.args

theorem qualify_eq (text : String) : qualify b text = .ok (b.qualify text) := apply_eq small (.split text)

end Clauses

/-! ## Runs -/

def take (b : Builder) : Step → Checked Builder
  | .clause c => do
    let done ← apply b c
    .ok done.state
  | .path q => .ok (b.tracePath q)

def takeAll (b : Builder) (steps : List Step) : Checked Builder := steps.foldlM take b

theorem take_eq {b : Builder} (small : SmallTables b.personalities.tables) (step : Step) :
    take b step = .ok (b.take step) := by
  cases step with
  | clause c =>
    simp only [take, apply_eq small, ok_bind]
    rfl
  | path q => rfl

theorem takeAll_eq {b : Builder} (small : SmallTables b.personalities.tables) (steps : List Step) :
    takeAll b steps = .ok (b.takeAll steps) := by
  induction steps generalizing b with
  | nil => rfl
  | cons step rest ih =>
    unfold takeAll at ih ⊢
    rw [List.foldlM_cons, take_eq small, ok_bind]
    exact ih (b.take_personalities step ▸ small)

/-- The action that traces, limited to paths. -/
def narrow (p : Personalities) (paths : PathSet) (a : Action) : Checked Action := do
  let a ← orAll a
  let (place, a) ← addFilter a (.path paths)
  .ok { a with condition := a.condition.and ⟨place, false⟩ }
where
  orAll (a : Action) : Checked Action := if a.filters.isEmpty then addAlternative a (.allCalls p) else .ok a

theorem narrow_eq (p : Personalities) (paths : PathSet) (a : Action) :
    narrow p paths a =
      .ok ((if a.filters.isEmpty then a.addAlternative (.allCalls p) else a).limited (.path paths)) := by
  have orAll : narrow.orAll p a = .ok (if a.filters.isEmpty then a.addAlternative (.allCalls p) else a) := by
    unfold narrow.orAll
    rw [addAlternative_eq]
    exact (apply_ite Except.ok _ _ _).symm
  simp only [narrow, orAll, addFilter_eq, ok_bind]
  rfl

def limitToPaths (b : Builder) : Checked (Builder × List Event) := do
  let (place, b, events) ← findOrAdd b .trace
  let b ← modifyAction b place (narrow b.personalities b.paths)
  .ok (b, events)

theorem limitToPaths_eq (b : Builder) : limitToPaths b = .ok b.limitToPaths := by
  have modified := modifyAction_eq (b.lt_length_findOrAdd .trace)
    (narrow_eq (b.findOrAdd .trace).2.1.personalities (b.findOrAdd .trace).2.1.paths)
  simp only [limitToPaths, findOrAdd_eq, modified, ok_bind]
  rfl

/-- The engine for a run, if no condition speaks of a filter that is missing. -/
def finish (b : Builder) : Checked (Engine × List Event) := do
  let (b, events) ← limited b
  let actions := b.actions.mergeSort Builder.runsBefore
  assert (actions.all (·.wellFormed))
  let room := Builder.maxFilters actions
  .ok (⟨b.personalities, actions, b.defaults, b.signals, .replicate room false⟩,
    events ++ [.configured actions.length room b.defaults])
where
  limited (b : Builder) : Checked (Builder × List Event) := if b.paths.isEmpty then .ok (b, []) else limitToPaths b

theorem finish_eq_ok {b : Builder} (wellFormed : ∀ a ∈ b.finish.1.actions, a.wellFormed = true) :
    finish b = .ok b.finish := by
  have limited : finish.limited b = .ok (if b.paths.isEmpty then (b, []) else b.limitToPaths) := by
    unfold finish.limited
    rw [limitToPaths_eq]
    exact (apply_ite Except.ok _ _ _).symm
  have known : ((if b.paths.isEmpty then (b, []) else b.limitToPaths).1.actions.mergeSort Builder.runsBefore).all
      (·.wellFormed) = true := List.all_eq_true.mpr wellFormed
  simp only [finish, limited, assert_eq_ok known, ok_bind]
  rfl

/-! ## Calls -/

/-- A number that takes more than 32 bits is only in sets that are inverted. -/
def holdsNumber (set : NumberSet) (n : Nat) : Checked Bool :=
  if n < 2 ^ 32 then contains set n.toUInt32 else .ok set.inverted

theorem holdsNumber_eq {set : NumberSet} (fits : set.Fits) (n : Nat) : holdsNumber set n = .ok (set.contains n) := by
  unfold holdsNumber
  split
  next lt => rw [contains_eq, toNat_toUInt32 lt]
  next large =>
    have absent : set.bits.contains n = false := by
      rw [Bool.eq_false_iff, ne_eq, List.contains_iff_mem]
      exact fun mem => large (fits.lt mem)
    unfold NumberSet.contains
    rw [absent, Bool.false_xor]

/-- An argument as a signed number of 32 bits. -/
def descriptor (c : Call) (place : Nat) : Checked Int := do
  let arg ← get c.args.toList place
  .ok arg.toUInt32.toInt32.toInt

theorem descriptor_eq (c : Call) (place : Fin 6) : descriptor c place = .ok (c.descriptor place) := by
  have inside : place.val < c.args.toList.length := by simp
  simp only [descriptor, get_eq_ok inside, ok_bind, Vector.getElem_toList]
  rfl

def holdsDescriptor (set : NumberSet) (fd : Int) : Checked Bool :=
  if fd < 0 then .ok set.inverted else contains set fd.toNat.toUInt32

theorem holdsDescriptor_eq (set : NumberSet) (c : Call) (place : Fin 6) :
    holdsDescriptor set (c.descriptor place) = .ok (Filter.hasDescriptor set (c.descriptor place)) := by
  have lt : (c.descriptor place).toNat < 2 ^ 32 := by
    have signed : c.descriptor place < 2 ^ 31 := Int32.toInt_lt _
    omega
  unfold holdsDescriptor Filter.hasDescriptor
  rw [contains_eq, toNat_toUInt32 lt]
  exact (apply_ite Except.ok _ _ _).symm

/-- The entry for a call. A number that takes more than 32 bits is in no table. -/
def entry? (p : Personalities) (c : Call) : Option Entry :=
  (p.get? c.personality).bind fun t => if c.number < 2 ^ 32 then t.get? c.number else none

theorem entry?_eq {p : Personalities} (small : SmallTables p.tables) (c : Call) :
    entry? p c = (p.get? c.personality).bind (·.get? c.number) := by
  unfold entry?
  cases known : p.get? c.personality with
  | none => rfl
  | some t =>
    have size := small t (List.mem_of_getElem? known)
    simp only [Option.bind_some]
    split
    · rfl
    next large =>
      have outside : t.entries.length ≤ c.number := by
        unfold Table.size at size
        omega
      exact (List.getElem?_eq_none outside).symm

def holds (p : Personalities) (c : Call) : Filter → Checked Bool
  | .syscall sets =>
    match sets[c.personality]? with
    | some set => holdsNumber set c.number
    | none => .ok false
  | .fd set =>
    match entry? p c with
    | some e => (Filter.placesOf e).anyM fun (place : Fin 6) => do
      let fd ← descriptor c place
      holdsDescriptor set fd
    | none => .ok false
  | .path paths => .ok (paths.meets c.paths)

theorem holds_eq {p : Personalities} (small : SmallTables p.tables) (c : Call) {f : Filter} (fits : f.Fits) :
    holds p c f = .ok (f.holds c p) := by
  cases f with
  | syscall sets =>
    simp only [holds, Filter.holds]
    cases known : sets[c.personality]? with
    | none => rfl
    | some set => exact holdsNumber_eq (fits set (List.mem_of_getElem? known)) c.number
  | fd set =>
    simp only [holds, Filter.holds, entry?_eq small]
    cases (p.get? c.personality).bind (·.get? c.number) with
    | none => rfl
    | some e =>
      simp only [descriptor_eq, holdsDescriptor_eq, ok_bind]
      exact List.anyM_pure
  | path paths => rfl

/-- Writes the results of the filters over the start of a list of results. -/
def evaluate (p : Personalities) (a : Action) (c : Call) (results : List Bool) : Checked (Bool × List Bool) :=
  let count := a.filters.length
  if results.length < count then .ok (false, results)
  else do
    let own ← a.filters.mapM (holds p c)
    let results := own ++ results.drop count
    .ok (a.condition.eval (results.take count), results)

theorem evaluate_eq {p : Personalities} (small : SmallTables p.tables) {a : Action} (fits : ∀ f ∈ a.filters, f.Fits)
    (c : Call) (results : List Bool) : evaluate p a c results = .ok (a.evaluate c p results) := by
  have own : a.filters.mapM (holds p c) = .ok (a.filters.map (·.holds c p)) :=
    mapM_eq_ok fun f mem => holds_eq small c (fits f mem)
  unfold evaluate Action.evaluate
  simp only [own, ok_bind]
  exact (apply_ite Except.ok _ _ _).symm

variable {σ : Type}

def step (p : Personalities) (h : Handler σ) (r : Engine.Run σ) (a : Action) : Checked (Engine.Run σ) :=
  if a.kind.considers r.call then do
    let (applies, results) ← evaluate p a r.call r.results
    if applies then
      let event := Event.actionApplies r.call.pid r.call.number a.kind
      let decided := { r.call with decisions := r.call.decisions.insert a.kind.decision }
      let (state, call) := h r.state decided a.kind a.data
      .ok ⟨state, call, results, r.events ++ [event]⟩
    else .ok { r with results }
  else .ok r

theorem step_eq {p : Personalities} (small : SmallTables p.tables) {a : Action} (fits : ∀ f ∈ a.filters, f.Fits)
    (h : Handler σ) (r : Engine.Run σ) : step p h r a = .ok (Engine.step p h r a) := by
  unfold step Engine.step
  split
  · rw [evaluate_eq small fits, ok_bind]
    dsimp only
    split <;> rfl
  · rfl

/-- Sends a call through all actions in order. -/
def dispatch (e : Engine) (h : Handler σ) (state : σ) (c : Call) : Checked (Engine × Engine.Run σ) := do
  let start : Engine.Run σ := ⟨state, { c with decisions := c.decisions.union e.defaults }, e.results, []⟩
  let r ← e.actions.foldlM (step e.personalities h) start
  .ok ({ e with results := r.results }, r)

theorem dispatch_eq {e : Engine} (small : SmallTables e.personalities.tables)
    (fits : ∀ a ∈ e.actions, ∀ f ∈ a.filters, f.Fits) (h : Handler σ) (s : σ) (c : Call) :
    dispatch e h s c = .ok (e.dispatch h s c) := by
  have run (r : Engine.Run σ) : e.actions.foldlM (step e.personalities h) r =
      .ok (e.actions.foldl (Engine.step e.personalities h) r) :=
    foldlM_eq_ok r fun r a mem => step_eq small (fits a mem) h r
  simp only [dispatch, run, ok_bind]
  rfl

end Checked

/-! ## Sets of an engine -/

theorem Filter.fits_allCalls (p : Personalities) : (Filter.allCalls p).Fits := by
  intro s mem
  obtain ⟨_, -, rfl⟩ := List.mem_map.mp mem
  exact Nat.zero_le _

namespace Builder

variable {p : Personalities} (small : Checked.SmallTables p.tables)

theorem fits_signals_take {b : Builder} (fits : b.signals.Fits) (step : Step) : (b.take step).signals.Fits := by
  cases step with
  | path q => exact fits
  | clause c =>
    show (b.apply c).state.signals.Fits
    cases name : Qualifier.ofName? c.name with
    | none =>
      rw [(b.apply_unknown c name).2]
      exact fits
    | some q =>
      cases q with
      | signals =>
        rw [(b.apply_signals c name).2]
        exact NumberSpec.fits_addTo Checked.signal_lt c.main .signal .clause fits.clear
      | action k =>
        have entered := b.apply_action c name
        cases rule : c.rule k b.personalities with
        | error e =>
          rw [rule] at entered
          rw [entered.2]
          exact fits
        | ok r =>
          rw [rule] at entered
          rw [entered.2, enter_signals]
          exact fits

theorem fits_signals_takeAll {b : Builder} (fits : b.signals.Fits) (steps : List Step) :
    (b.takeAll steps).signals.Fits := by
  induction steps generalizing b with
  | nil => exact fits
  | cons step rest ih => exact ih (fits_signals_take fits step)

include small

theorem fits_filters_finish (steps : List Step) :
    ∀ a ∈ ((Builder.new p).takeAll steps).finish.1.actions, ∀ f ∈ a.filters, f.Fits := by
  intro a mem f filter
  rw [mem_finish_actions] at mem
  obtain ⟨r, rule, rfl⟩ | rfl | rfl := mem_filters_limited (registered_takeAll p steps).1 mem filter
  · obtain ⟨c, -, -, read⟩ := mem_rulesOf_iff.mp rule
    exact Filter.fits_parse small (Clause.of_rule read).2
  · exact Filter.fits_allCalls p
  · exact List.forall_mem_nil _

end Builder

/-- The sets of numbers that an engine looks at. -/
def Engine.sets (e : Engine) : List NumberSet := e.signals :: e.actions.flatMap fun a => a.filters.flatMap (·.sets)

theorem Builder.fits_finish {p : Personalities} (small : Checked.SmallTables p.tables) (steps : List Step) :
    ∀ s ∈ ((Builder.new p).takeAll steps).finish.1.sets, s.Fits := by
  have signals : ((Builder.new p).takeAll steps).finish.1.signals.Fits := by
    rw [finish_eq, limited_signals]
    exact fits_signals_takeAll (Nat.zero_le _) steps
  refine List.forall_mem_cons.mpr ⟨signals, fun s mem => ?_⟩
  obtain ⟨a, action, mem⟩ := List.mem_flatMap.mp mem
  obtain ⟨f, filter, mem⟩ := List.mem_flatMap.mp mem
  exact fits_filters_finish small steps a action f filter s mem

/-! ## Any configuration and any calls -/

namespace Checked

/-- With tables of less than 2^32 numbers, nothing meets a fault, whatever was configured before, accepted or not:
neither the next clause, nor finishing, nor any call to an engine that was used before. -/
theorem run_faultless {p : Personalities} (small : ∀ t ∈ p.tables, t.size < 2 ^ 32) (steps : List Step) :
    let b := (Builder.new p).takeAll steps
    let e := b.finish.1
    takeAll (.new p) steps = .ok b ∧
      (∀ text, qualify b text = .ok (b.qualify text)) ∧
      finish b = .ok b.finish ∧
      (∀ (σ : Type) (h : Handler σ) (history : List Engine.Turn) (s : σ) (c : Call),
        dispatch (e.after history) h s c = .ok ((e.after history).dispatch h s c)) ∧
      (∀ n : UInt32, contains e.signals n = .ok (e.tracesSignal n.toNat)) ∧
      (∀ s ∈ e.sets, numbers s = .ok s.bits) ∧
      (∀ a ∈ e.actions, ∀ i ∈ a.data, ∀ occurrence, firesOn i occurrence = .ok (i.firesOn occurrence)) := by
  intro b e
  have start : SmallTables (Builder.new p).personalities.tables := small
  have personalities : b.personalities = p := Builder.takeAll_personalities (.new p) steps
  have wellFormed : ∀ a ∈ e.actions, a.wellFormed = true := by
    obtain ⟨registered, -⟩ := Builder.registered_takeAll p steps
    intro a mem
    exact Builder.wellFormed_finalActions registered a ((Builder.finish_perm registered).mem_iff.mp mem)
  refine ⟨takeAll_eq start steps, qualify_eq (personalities ▸ small), finish_eq_ok wellFormed,
    fun σ h history s c => ?_, contains_eq e.signals,
    fun s mem => numbers_eq (Builder.fits_finish small steps s mem),
    fun a _ i _ occurrence => firesOn_eq i occurrence⟩
  obtain ⟨alike, -⟩ := Engine.after_invariant e b.finish_roomy history
  refine dispatch_eq ?_ ?_ h s c
  · rw [alike.personalities, b.finish_personalities, personalities]
    exact small
  · rw [alike.actions]
    exact Builder.fits_filters_finish small steps

theorem run_faultless_outside :
    let p : Personalities := ⟨[⟨"demo", [⟨some "read", .ofList [.desc]⟩, ⟨some "mmap", .empty⟩]⟩], List.cons_ne_nil _ _⟩
    let steps : List Step := [.clause (.split "signal=!SIé,hup"), .clause (.split "trace=!?nope,7"),
      .clause (.split "write=0,64"), .path "/tmp", .clause (.split "fault=read:when=3+2:signal=hup")]
    let b := (Builder.new p).takeAll steps
    let e := b.finish.1
    let c := Call.new 1 (2 ^ 64 - 1)
    (∀ t ∈ p.tables, t.size < 2 ^ 32) ∧ takeAll (.new p) steps = .ok b ∧ finish b = .ok b.finish ∧
      ∀ history, dispatch (e.after history) .none () c = .ok ((e.after history).dispatch .none () c) := by
  -- A name whose third byte is inside a letter, and a call that is neither in a table nor a number of 32 bits.
  intro p steps b e c
  have small : ∀ t ∈ p.tables, t.size < 2 ^ 32 := by decide
  obtain ⟨taken, -, finished, sent, -⟩ := run_faultless small steps
  exact ⟨small, taken, finished, fun history => sent Unit .none history () c⟩

end Checked

end SyscallFilter
