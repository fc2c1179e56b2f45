import Mathlib.Data.List.Basic
import Mathlib.Tactic.Tauto
import SyscallFilter.Proofs.Filter
import SyscallFilter.Proofs.Finish
import SyscallFilter.Proofs.Run

/-!
# What is decided about a call

The decisions of a whole configuration: clauses and paths in any order, the engine that they are finished to, and
a call that nothing else changes on its way through it.
-/

namespace SyscallFilter

/-! ## Kinds and their decisions -/

namespace ActionKind

theorem decision_eq_trace_iff (k : ActionKind) : k.decision = .trace ↔ k = .trace := by
  cases k <;> decide

theorem decision_eq_inject_iff (k : ActionKind) : k.decision = .inject ↔ k = .fault ∨ k = .inject := by
  cases k <;> decide

theorem decision_eq_iff_of_shown {k : ActionKind} (shown : k.priority = 2) (k' : ActionKind) :
    k'.decision = k.decision ↔ k' = k := by
  revert shown
  cases k <;> cases k' <;> decide

theorem considers_of_shown {k : ActionKind} (shown : k.priority = 2) (c : Call) : k.considers c = c.isTraced := by
  cases k <;> first | rfl | nomatch shown

end ActionKind

/-! ## Calls that only actions decide on -/

/-- A handler that leaves every call as it sees it. -/
def Handler.Passive {σ : Type} (h : Handler σ) : Prop := ∀ s c k d, (h s c k d).2 = c

def Call.settle (p : Personalities) (c : Call) (a : Action) : Call :=
  if a.kind.considers c && a.applies c p then c.decided a.kind else c

theorem Engine.walk_passive {σ : Type} {h : Handler σ} (passive : h.Passive) (p : Personalities) (as : List Action)
    (s : σ) (c : Call) : (Engine.walk p h as s c).call = as.foldl (Call.settle p) c := by
  induction as generalizing s c with
  | nil => rfl
  | cons a rest ih =>
    rw [Engine.walk, List.foldl_cons, Call.settle]
    split
    · exact (ih _ _).trans (by rw [passive])
    · exact ih s c

namespace Call

variable (p : Personalities)

/-- Two calls that differ at most in the decisions on them. -/
structure SameBut (c c' : Call) : Prop where
  pid : c'.pid = c.pid
  personality : c'.personality = c.personality
  number : c'.number = c.number
  args : c'.args = c.args
  paths : c'.paths = c.paths

theorem SameBut.trans {c c' c'' : Call} (first : SameBut c c') (second : SameBut c' c'') : SameBut c c'' :=
  ⟨second.pid.trans first.pid, second.personality.trans first.personality, second.number.trans first.number,
    second.args.trans first.args, second.paths.trans first.paths⟩

theorem SameBut.eq_with {c c' : Call} (same : SameBut c c') : c' = { c with decisions := c'.decisions } := by
  cases c
  cases c'
  cases same
  simp_all

theorem SameBut.applies {c c' : Call} (same : SameBut c c') (a : Action) : a.applies c' p = a.applies c p :=
  Action.applies_congr fun f _ => f.holds_congr p same.personality same.number same.args same.paths

theorem sameBut_settle (c : Call) (a : Action) : SameBut c (c.settle p a) := by
  unfold settle
  split <;> exact ⟨rfl, rfl, rfl, rfl, rfl⟩

theorem applies_settle (c : Call) (a a' : Action) : a'.applies (c.settle p a) p = a'.applies c p :=
  (sameBut_settle p c a).applies p a'

@[simp]
theorem applies_decided (c : Call) (k : ActionKind) (a : Action) : a.applies (c.decided k) p = a.applies c p :=
  SameBut.applies p ⟨rfl, rfl, rfl, rfl, rfl⟩ a

@[simp]
theorem applies_enter (e : Engine) (c : Call) (a : Action) : a.applies (e.enter c) p = a.applies c p :=
  SameBut.applies p ⟨rfl, rfl, rfl, rfl, rfl⟩ a

/-! ## One action -/

theorem has_settle (c : Call) (a : Action) (d : Decision) :
    (c.settle p a).decisions.has d = true ↔
      c.decisions.has d = true ∨ a.kind.decision = d ∧ a.kind.considers c = true ∧ a.applies c p = true := by
  unfold settle
  split
  next yes =>
    rw [Bool.and_eq_true] at yes
    simp only [decided, Decision.has_insert_iff, yes, and_true]
  next no =>
    rw [Bool.and_eq_true] at no
    simp only [no, and_false, or_false]

theorem testBit_settle (c : Call) (a : Action) {i : Nat} (other : ∀ d : Decision, Flag.bit d ≠ i) :
    (c.settle p a).decisions.bits.testBit i = c.decisions.bits.testBit i := by
  unfold settle
  split
  · rw [decided, Flags.testBit_insert, decide_eq_false (other _), Bool.or_false]
  · rfl

/-! ## All actions -/

theorem testBit_foldl_settle (as : List Action) (c : Call) {i : Nat} (other : ∀ d : Decision, Flag.bit d ≠ i) :
    (as.foldl (settle p) c).decisions.bits.testBit i = c.decisions.bits.testBit i := by
  induction as generalizing c with
  | nil => rfl
  | cons a rest ih => rw [List.foldl_cons, ih, testBit_settle p c a other]

theorem has_foldl_settle {d : Decision}
    (free : ∀ (k : ActionKind) (c : Call), k.decision = d → ¬ c.decisions.has d = true → k.considers c = true)
    (as : List Action) (c : Call) :
    (as.foldl (settle p) c).decisions.has d = true ↔
      c.decisions.has d = true ∨ ∃ a ∈ as, a.kind.decision = d ∧ a.applies c p = true := by
  induction as generalizing c with
  | nil => simp
  | cons a rest ih =>
    rw [List.foldl_cons, ih, has_settle, or_assoc, List.exists_mem_cons_iff]
    simp only [applies_settle]
    by_cases already : c.decisions.has d = true
    · simp only [already, true_or]
    · have considered : a.kind.decision = d ∧ a.kind.considers c = true ∧ a.applies c p = true ↔
          a.kind.decision = d ∧ a.applies c p = true := by
        refine and_congr_right fun kind => ?_
        exact and_iff_right (free a.kind c kind already)
      rw [considered]

theorem traced_foldl_settle (as : List Action) (c : Call) :
    (as.foldl (settle p) c).decisions.has .trace = true ↔
      c.decisions.has .trace = true ∨ ∃ a ∈ as, a.kind = .trace ∧ a.applies c p = true := by
  simp only [← ActionKind.decision_eq_trace_iff]
  refine has_foldl_settle p (fun k c decision _ => ?_) as c
  rw [k.decision_eq_trace_iff.mp decision]
  rfl

theorem injected_foldl_settle (as : List Action) (c : Call) :
    (as.foldl (settle p) c).decisions.has .inject = true ↔
      c.decisions.has .inject = true ∨ ∃ a ∈ as, (a.kind = .fault ∨ a.kind = .inject) ∧ a.applies c p = true := by
  simp only [← ActionKind.decision_eq_inject_iff]
  refine has_foldl_settle p (fun k c decision fresh => ?_) as c
  rw [Bool.not_eq_true] at fresh
  rcases k.decision_eq_inject_iff.mp decision with rfl | rfl <;>
    simp only [ActionKind.considers, notInjected, fresh, Bool.not_false]

theorem traced_of_shown {a : Action} {rest : List Action} (shown : a.kind.priority = 2)
    (sorted : (a :: rest).Pairwise fun a a' => a.kind.priority ≤ a'.kind.priority) (c : Call) :
    (rest.foldl (settle p) (c.settle p a)).decisions.has .trace = true ↔ c.isTraced = true := by
  -- What shows a call runs after all that could trace it.
  have noTrace (a' : Action) : a' ∈ rest → a'.kind ≠ .trace := by
    intro mem trace
    have := (List.pairwise_cons.mp sorted).1 a' mem
    rw [shown, trace] at this
    exact absurd this (by decide)
  have noDecision : a.kind.decision ≠ .trace := by
    rw [ne_eq, ActionKind.decision_eq_trace_iff]
    intro trace
    rw [trace] at shown
    cases shown
  rw [traced_foldl_settle, has_settle]
  simp only [noDecision, false_and, or_false]
  refine or_iff_left ?_
  rintro ⟨a', mem, trace, -⟩
  exact noTrace a' mem trace

theorem shown_foldl_settle {k : ActionKind} (shown : k.priority = 2) {as : List Action}
    (sorted : as.Pairwise fun a a' => a.kind.priority ≤ a'.kind.priority) (c : Call) :
    (as.foldl (settle p) c).decisions.has k.decision = true ↔
      c.decisions.has k.decision = true ∨
        (as.foldl (settle p) c).decisions.has .trace = true ∧ ∃ a ∈ as, a.kind = k ∧ a.applies c p = true := by
  induction as generalizing c with
  | nil => simp
  | cons a rest ih =>
    obtain ⟨-, later⟩ := List.pairwise_cons.mp sorted
    rw [List.foldl_cons, ih later, has_settle, ActionKind.decision_eq_iff_of_shown shown,
      List.exists_mem_cons_iff, or_assoc]
    simp only [applies_settle]
    refine or_congr_right ?_
    by_cases own : a.kind = k
    · rw [traced_of_shown p (own ▸ shown) sorted, own, ActionKind.considers_of_shown shown]
      tauto
    · simp only [own, false_and, false_or]

theorem sameBut_foldl_settle (as : List Action) (c : Call) : SameBut c (as.foldl (settle p) c) := by
  induction as generalizing c with
  | nil => exact ⟨rfl, rfl, rfl, rfl, rfl⟩
  | cons a rest ih => exact (sameBut_settle p c a).trans (ih (c.settle p a))

end Call

/-! ## Finished engines -/

namespace Builder

section Registered

variable {p : Personalities} {rules : List Rule} {b : Builder}

theorem finish_dispatch_call {σ : Type} (registered : Registered p rules b) {h : Handler σ} (passive : h.Passive)
    (s : σ) (call : Call) :
    (b.finish.1.dispatch h s call).2.call = b.finish.1.actions.foldl (Call.settle p) (b.finish.1.enter call) := by
  obtain ⟨-, left⟩ := Engine.dispatch_of_roomy b.finish.1 b.finish_roomy h s call
  rw [left, Engine.walk_passive passive]
  have personalities : b.finish.1.personalities = p := by
    rw [finish_eq]
    exact b.limited_personalities.trans registered.personalities
  rw [personalities]

theorem enter_decisions (b : Builder) (call : Call) :
    (b.finish.1.enter call).decisions = call.decisions.union b.limited.defaults := by
  rw [finish_eq]
  rfl

theorem has_enter_iff (registered : Registered p rules b) (call : Call) (d : Decision) :
    (b.finish.1.enter call).decisions.has d = true ↔
      call.decisions.has d = true ∨ Decisions.default.has d = true ∧
        (¬ ∃ r ∈ rules, r.kind.decision = d) ∧ (b.paths.isEmpty = true ∨ d ≠ .trace) := by
  have defaults : b.limited.defaults.has d = true ↔ Decisions.default.has d = true ∧
        (¬ ∃ r ∈ rules, r.kind.decision = d) ∧ (b.paths.isEmpty = true ∨ d ≠ .trace) := by
    unfold Flags.has
    rw [testBit_limited_defaults registered, registered.testBit_defaults]
    rw [Bool.and_eq_true, Bool.and_eq_true, Bool.not_eq_true', Bool.or_eq_true, Bool.not_eq_true',
      decide_eq_false_iff_not, Decision.bit_inj, and_assoc, ← Bool.not_eq_true, List.any_eq_true]
    simp only [decide_eq_true_eq, Decision.bit_inj, ne_comm, ne_eq]
  rw [enter_decisions, Flags.has_union, Bool.or_eq_true, defaults]

theorem exists_finish_iff (call : Call) (q : ActionKind → Prop) :
    (∃ a ∈ b.finish.1.actions, q a.kind ∧ a.applies (b.finish.1.enter call) p = true) ↔
      ∃ a ∈ b.limited.actions, q a.kind ∧ a.applies call p = true := by
  simp only [mem_finish_actions, Call.applies_enter]

variable {σ : Type} {h : Handler σ}

theorem traced_iff (registered : Registered p rules b) (passive : h.Passive) (s : σ) (call : Call) :
    (b.finish.1.dispatch h s call).2.call.decisions.has .trace = true ↔
      call.decisions.has .trace = true ∨ (¬ (∃ r ∈ rules, r.kind = .trace) ∧ b.paths.isEmpty = true) ∨
        ((∃ r ∈ rules, r.kind = .trace ∧ r.filter.holds call p = true) ∨
            (¬ ∃ r ∈ rules, r.kind = .trace) ∧ (p.get? call.personality).isSome = true) ∧
          (b.paths.isEmpty = true ∨ b.paths.meets call.paths = true) := by
  have byDefault : Decisions.default.has .trace = true := rfl
  rw [finish_dispatch_call registered passive, Call.traced_foldl_settle, has_enter_iff registered,
    exists_finish_iff call (· = .trace), or_assoc, byDefault]
  simp only [ActionKind.decision_eq_trace_iff, ne_eq, not_true_eq_false, or_false, true_and]
  rw [traces_iff registered]
  generalize (∃ r ∈ rules, r.kind = .trace) = mentioned
  generalize (∃ r ∈ rules, r.kind = .trace ∧ r.filter.holds call p = true) = hit
  cases b.paths.isEmpty with
  | false => simp
  | true =>
    simp only [reduceCtorEq, false_and, and_false, or_false, true_or, and_true]
    tauto

theorem injected_iff (registered : Registered p rules b) (passive : h.Passive) (s : σ) (call : Call) :
    (b.finish.1.dispatch h s call).2.call.decisions.has .inject = true ↔
      call.decisions.has .inject = true ∨ (∃ r ∈ rules, r.kind = .fault ∧ r.filter.holds call p = true) ∨
        ∃ r ∈ rules, r.kind = .inject ∧ r.filter.holds call p = true := by
  have noDefault : Decisions.default.has .inject = false := rfl
  rw [finish_dispatch_call registered passive, Call.injected_foldl_settle, has_enter_iff registered,
    exists_finish_iff call fun k => k = .fault ∨ k = .inject]
  simp only [noDefault, Bool.false_eq_true, false_and, or_false, or_and_right, and_or_left, exists_or]
  rw [applies_limited_iff registered (by decide), applies_limited_iff registered (by decide)]

theorem shown_iff (registered : Registered p rules b) (passive : h.Passive) (s : σ) (call : Call) {k : ActionKind}
    (shown : k.priority = 2) :
    (b.finish.1.dispatch h s call).2.call.decisions.has k.decision = true ↔
      call.decisions.has k.decision = true ∨ (k.onByDefault = true ∧ ¬ ∃ r ∈ rules, r.kind = k) ∨
        (b.finish.1.dispatch h s call).2.call.decisions.has .trace = true ∧
          ∃ r ∈ rules, r.kind = k ∧ r.filter.holds call p = true := by
  have noTrace : k ≠ .trace := by
    rintro rfl
    cases shown
  have noDecision : k.decision ≠ .trace := mt k.decision_eq_trace_iff.mp noTrace
  rw [finish_dispatch_call registered passive, Call.shown_foldl_settle p shown b.finish_sorted,
    has_enter_iff registered, exists_finish_iff call (· = k), applies_limited_iff registered noTrace, or_assoc]
  simp only [ActionKind.decision_eq_iff_of_shown shown, noDecision, ne_eq, not_false_eq_true, or_true, and_true]
  rfl

theorem testBit_finish_of_other (registered : Registered p rules b) (passive : h.Passive) (s : σ) (call : Call)
    {i : Nat} (other : ∀ d : Decision, Flag.bit d ≠ i) :
    (b.finish.1.dispatch h s call).2.call.decisions.bits.testBit i = call.decisions.bits.testBit i := by
  have noDefault : Decisions.default.bits.testBit i = false := by
    unfold Decisions.default Flags.ofList
    simp only [List.foldl_cons, List.foldl_nil, Flags.testBit_insert, decide_eq_false (other _), Bool.or_false]
    exact Nat.zero_testBit i
  rw [finish_dispatch_call registered passive, Call.testBit_foldl_settle p _ _ other]
  rw [enter_decisions, Flags.testBit_union, testBit_limited_defaults registered, registered.testBit_defaults, noDefault,
    Bool.false_and, Bool.false_and, Bool.or_false]

end Registered

/-! ## Configurations -/

/-- What a whole configuration decides about a call, if every clause is accepted and nothing but the actions
changes the call. Clauses and paths come in any order, and the call may come with decisions on it. -/
theorem finish_decides {σ : Type} (p : Personalities) (steps : List Step)
    (accepted : (Builder.new p).Accepts steps) (h : Handler σ) (passive : h.Passive) (s : σ) (call : Call) :
    let after := (((Builder.new p).takeAll steps).finish.1.dispatch h s call).2.call
    let paths := pathsOf steps
    (after.decisions.has .trace = true ↔
      call.decisions.has .trace = true ∨ (¬ Mentions steps .trace ∧ paths = []) ∨
        (Hits p steps .trace call ∨ ¬ Mentions steps .trace ∧ (p.get? call.personality).isSome = true) ∧
          (paths = [] ∨ ∃ path ∈ call.paths, ∃ selected ∈ paths, Path.same selected path = true)) ∧
    (after.decisions.has .inject = true ↔
      call.decisions.has .inject = true ∨ Hits p steps .fault call ∨ Hits p steps .inject call) ∧
    (∀ k ∈ [ActionKind.brief, .verbose], after.decisions.has k.decision = true ↔
      call.decisions.has k.decision = true ∨ ¬ Mentions steps k ∨
        after.decisions.has .trace = true ∧ Hits p steps k call) ∧
    (∀ k ∈ [ActionKind.raw, .read, .write], after.decisions.has k.decision = true ↔
      call.decisions.has k.decision = true ∨ after.decisions.has .trace = true ∧ Hits p steps k call) ∧
    (∀ i, (∀ d : Decision, Flag.bit d ≠ i) → after.decisions.bits.testBit i = call.decisions.bits.testBit i) ∧
    after = { call with decisions := after.decisions } := by
  intro after paths
  obtain ⟨registered, selected⟩ := registered_takeAll p steps
  have noPaths : ((Builder.new p).takeAll steps).paths.isEmpty = true ↔ paths = [] := by
    rw [selected, PathSet.isEmpty_foldl_select]
    exact List.isEmpty_iff
  have meets : ((Builder.new p).takeAll steps).paths.meets call.paths = true ↔
      ∃ path ∈ call.paths, ∃ selected ∈ paths, Path.same selected path = true := by
    have each (path : String) : ((Builder.new p).takeAll steps).paths.contains path = true ↔
        ∃ selected ∈ paths, Path.same selected path = true := by
      rw [selected, PathSet.contains_foldl_select]
      exact or_iff_right Bool.false_ne_true
    unfold PathSet.meets
    rw [List.any_eq_true]
    simp only [each]
  refine ⟨?_, ?_, ?_, ?_, ?_, ?_⟩
  · rw [mentions_iff accepted, hits_iff accepted, ← noPaths, ← meets]
    exact traced_iff registered passive s call
  · rw [hits_iff accepted, hits_iff accepted]
    exact injected_iff registered passive s call
  · intro k kind
    have shown : k.priority = 2 ∧ k.onByDefault = true := by
      simp only [List.mem_cons, List.not_mem_nil, or_false] at kind
      rcases kind with rfl | rfl <;> exact ⟨rfl, rfl⟩
    rw [mentions_iff accepted, hits_iff accepted]
    refine (shown_iff registered passive s call shown.1).trans ?_
    rw [shown.2]
    simp only [true_and]
    rfl
  · intro k kind
    have shown : k.priority = 2 ∧ k.onByDefault = false := by
      simp only [List.mem_cons, List.not_mem_nil, or_false] at kind
      rcases kind with rfl | rfl | rfl <;> exact ⟨rfl, rfl⟩
    rw [hits_iff accepted]
    refine (shown_iff registered passive s call shown.1).trans ?_
    rw [shown.2]
    simp only [Bool.false_eq_true, false_and, false_or]
    rfl
  · intro i other
    exact testBit_finish_of_other registered passive s call other
  · have same := (Call.sameBut_foldl_settle p ((Builder.new p).takeAll steps).finish.1.actions
      (((Builder.new p).takeAll steps).finish.1.enter call))
    rw [← finish_dispatch_call registered passive s call] at same
    exact same.eq_with

theorem finish_decides_spelled_path :
    let p : Personalities := ⟨[⟨"demo", [⟨some "read", .empty⟩, ⟨some "open", .empty⟩]⟩], List.cons_ne_nil _ _⟩
    let steps : List Step := [.clause (.split "trace=open"), .path "/tmp/x"]
    let call : Call := { Call.new 0 1 with paths := ["/tmp//./x"] }
    (Builder.new p).Accepts steps ∧ Handler.none.Passive ∧
      (((Builder.new p).takeAll steps).finish.1.dispatch .none () call).2.call.decisions.has .trace = true := by
  intro p steps call
  have accepted : (Builder.new p).Accepts steps := ⟨by decide +kernel, trivial⟩
  have passive : Handler.none.Passive := fun _ _ _ _ => rfl
  refine ⟨accepted, passive, ?_⟩
  obtain ⟨traced, -⟩ := finish_decides p steps accepted .none passive () call
  have hit : Hits p steps .trace call := by
    refine ⟨.split "trace=open", List.mem_cons_self, by decide +kernel, .syscall [NumberSet.empty.add 1], ?_⟩
    exact ⟨by decide +kernel, by decide +kernel⟩
  refine traced.mpr (.inr (.inr ⟨.inl hit, .inr ?_⟩))
  exact ⟨"/tmp//./x", List.mem_cons_self, "/tmp/x", List.mem_cons_self, by decide +kernel⟩

end Builder

end SyscallFilter
