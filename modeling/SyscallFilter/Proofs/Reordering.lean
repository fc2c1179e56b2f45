import SyscallFilter.Proofs.Firing
import SyscallFilter.Proofs.Narrowing

/-!
# Configurations in another order

Whether a clause is accepted does not depend on what was configured before it. What is decided about a call, and
which kinds of action apply, are the same for every order of clauses and paths.
-/

namespace SyscallFilter

/-! ## Which kinds of action apply -/

def Fired (k : ActionKind) (log : List Invocation) : Prop := ∃ i ∈ log, i.kind = k

theorem Handler.Passive.recording {σ : Type} {h : Handler σ} (passive : h.Passive) :
    Handler.Passive (Engine.recording h) :=
  fun state c k data => passive state.2 c k data

namespace Engine

variable {σ : Type} {h : Handler σ} (p : Personalities)

theorem fired_cons (passive : h.Passive) (k : ActionKind) (a : Action) (rest : List Action) (s : σ) (c : Call) :
    ∃ s', Fired k (walk p h (a :: rest) s c).log ↔
      (a.kind = k ∧ a.kind.considers c = true ∧ a.applies c p = true) ∨
        Fired k (walk p h rest s' (c.settle p a)).log := by
  have next : (h s (c.decided a.kind) a.kind a.data).2 = c.decided a.kind := passive _ _ _ _
  simp only [walk, next, Call.settle]
  split
  next fires =>
    refine ⟨(h s (c.decided a.kind) a.kind a.data).1, ?_⟩
    rw [Bool.and_eq_true] at fires
    simp [Fired, fires]
  next silent =>
    refine ⟨s, ?_⟩
    rw [Bool.and_eq_true] at silent
    simp [silent]

theorem fired_trace_iff (passive : h.Passive) (as : List Action) (s : σ) (c : Call) :
    Fired .trace (walk p h as s c).log ↔ ∃ a ∈ as, a.kind = .trace ∧ a.applies c p = true := by
  induction as generalizing s c with
  | nil => simp [Fired, walk]
  | cons a rest ih =>
    obtain ⟨s', cons⟩ := fired_cons p passive .trace a rest s c
    have considered : a.kind = .trace → a.kind.considers c = true := by
      intro kind
      rw [kind]
      rfl
    rw [cons, ih, List.exists_mem_cons_iff]
    simp only [Call.applies_settle]
    exact or_congr_left (and_congr_right fun kind => and_iff_right (considered kind))

theorem fired_shown_iff (passive : h.Passive) {k : ActionKind} (shown : k.priority = 2) {as : List Action}
    (sorted : as.Pairwise fun a a' => a.kind.priority ≤ a'.kind.priority) (s : σ) (c : Call) :
    Fired k (walk p h as s c).log ↔
      (as.foldl (Call.settle p) c).decisions.has .trace = true ∧ ∃ a ∈ as, a.kind = k ∧ a.applies c p = true := by
  induction as generalizing s c with
  | nil => simp [Fired, walk]
  | cons a rest ih =>
    obtain ⟨s', cons⟩ := fired_cons p passive k a rest s c
    obtain ⟨-, later⟩ := List.pairwise_cons.mp sorted
    rw [cons, ih later, List.foldl_cons, List.exists_mem_cons_iff]
    simp only [Call.applies_settle]
    by_cases own : a.kind = k
    · rw [Call.traced_of_shown p (own ▸ shown) sorted, own, ActionKind.considers_of_shown shown]
      tauto
    · simp only [own, false_and, false_or]

theorem injections_eq_nil_iff (passive : h.Passive) (as : List Action) (s : σ) (c : Call) :
    injections (walk p h as s c).log = [] ↔
      c.decisions.has .inject = true ∨ ¬ ∃ a ∈ as, a.kind.takesArgs = true ∧ a.applies c p = true := by
  cases fresh : c.decisions.has .inject with
  | true => simp only [injections_of_injected p passive.keepsInjected as s fresh, true_or]
  | false =>
    have handed := injections_of_passive p passive as s fresh
    rw [← List.map_eq_nil_iff, handed, Option.toList_eq_nil_iff, List.findSome?_eq_none_iff]
    simp [List.mem_filter, Action.payload?]

end Engine

/-! ## Finished engines -/

namespace Builder

section Registered

variable {p : Personalities} {rules : List Rule} {b : Builder} {σ : Type} {h : Handler σ}

theorem recorded_eq_log (registered : Registered p rules b) (h : Handler σ) (s : σ) (call : Call) :
    (b.finish.1.dispatch (Engine.recording h) ([], s) call).2.state.1 =
      (Engine.walk p h b.finish.1.actions s (b.finish.1.enter call)).log := by
  rw [← registered.personalities]
  exact Engine.recorded_eq_log b [] h s call

theorem finish_fired_trace_iff (registered : Registered p rules b) (passive : h.Passive) (s : σ) (call : Call) :
    Fired .trace (b.finish.1.dispatch (Engine.recording h) ([], s) call).2.state.1 ↔
      ((∃ r ∈ rules, r.kind = .trace ∧ r.filter.holds call p = true) ∨
        (¬ ∃ r ∈ rules, r.kind = .trace) ∧ b.paths.isEmpty = false ∧ (p.get? call.personality).isSome = true) ∧
        (b.paths.isEmpty = true ∨ b.paths.meets call.paths = true) := by
  rw [recorded_eq_log registered, Engine.fired_trace_iff p passive, exists_finish_iff call (· = .trace),
    traces_iff registered]

theorem finish_fired_shown_iff (registered : Registered p rules b) (passive : h.Passive) (s : σ) (call : Call)
    {k : ActionKind} (shown : k.priority = 2) :
    Fired k (b.finish.1.dispatch (Engine.recording h) ([], s) call).2.state.1 ↔
      (b.finish.1.dispatch (Engine.recording h) ([], s) call).2.call.decisions.has .trace = true ∧
        ∃ r ∈ rules, r.kind = k ∧ r.filter.holds call p = true := by
  have noTrace : k ≠ .trace := by
    rintro rfl
    cases shown
  rw [finish_dispatch_call registered passive.recording, recorded_eq_log registered,
    Engine.fired_shown_iff p passive shown b.finish_sorted, exists_finish_iff call (· = k),
    applies_limited_iff registered noTrace]

theorem finish_injections_eq_nil_iff (registered : Registered p rules b) (passive : h.Passive) (s : σ) (call : Call) :
    injections (b.finish.1.dispatch (Engine.recording h) ([], s) call).2.state.1 = [] ↔
      call.decisions.has .inject = true ∨ ¬ ∃ r ∈ rules, r.kind.takesArgs = true ∧ r.filter.holds call p = true := by
  have entered : (b.finish.1.enter call).decisions.has .inject = true ↔ call.decisions.has .inject = true := by
    rw [has_enter_iff registered]
    exact or_iff_left fun ⟨byDefault, _⟩ => absurd byDefault (by decide)
  rw [recorded_eq_log registered, Engine.injections_eq_nil_iff p passive, entered,
    exists_finish_iff call fun k => k.takesArgs = true,
    exists_limited_iff registered (fun k => k.takesArgs = true) (by decide)]

end Registered

/-! ## Two orders -/

section Same

variable {p : Personalities} {rules rules' : List Rule} {b b' : Builder} {σ τ : Type} {h : Handler σ}
  {h' : Handler τ}

theorem dispatch_call_congr (registered : Registered p rules b) (registered' : Registered p rules' b')
    (same : ∀ r, r ∈ rules' ↔ r ∈ rules) (noPaths : b'.paths.isEmpty = b.paths.isEmpty)
    (meets : ∀ paths, b'.paths.meets paths = b.paths.meets paths) (passive : h.Passive) (passive' : h'.Passive)
    (s : σ) (s' : τ) (call : Call) :
    (b'.finish.1.dispatch h' s' call).2.call = (b.finish.1.dispatch h s call).2.call := by
  have decisions : (b'.finish.1.dispatch h' s' call).2.call.decisions =
      (b.finish.1.dispatch h s call).2.call.decisions := by
    apply Flags.le_antisymm
    · exact decisions_le_of_within registered' registered (fun r => (same r).symm)
        (PathSet.within_of_eq noPaths.symm fun qs => (meets qs).symm) passive' passive s' s call
    · exact decisions_le_of_within registered registered' same (PathSet.within_of_eq noPaths meets) passive passive'
        s s' call
  have left := (Call.sameBut_foldl_settle p b.finish.1.actions (b.finish.1.enter call)).eq_with
  have left' := (Call.sameBut_foldl_settle p b'.finish.1.actions (b'.finish.1.enter call)).eq_with
  rw [← finish_dispatch_call registered passive s] at left
  rw [← finish_dispatch_call registered' passive' s'] at left'
  rw [left, left', decisions]
  rfl

end Same

/-- A configuration may come in any order, clauses that are refused included. What a clause comes to is the same
wherever it stands, and so are the decisions about a call, the kinds without arguments that apply, and whether it is
injected into. -/
theorem finish_reordered {σ τ : Type} (p : Personalities) {steps steps' : List Step} (perm : steps.Perm steps')
    {h : Handler σ} {h' : Handler τ} (passive : h.Passive) (passive' : h'.Passive) (s : σ) (s' : τ) (call : Call) :
    let run := (((Builder.new p).takeAll steps).finish.1.dispatch (Engine.recording h) ([], s) call).2
    let run' := (((Builder.new p).takeAll steps').finish.1.dispatch (Engine.recording h') ([], s') call).2
    (∀ before c, (((Builder.new p).takeAll before).apply c).result = ((Builder.new p).apply c).result) ∧
      run'.call = run.call ∧
      (∀ k, k.takesArgs = false → (Fired k run'.state.1 ↔ Fired k run.state.1)) ∧
      (injections run'.state.1 = [] ↔ injections run.state.1 = []) := by
  intro run run'
  obtain ⟨registered, paths⟩ := registered_takeAll p steps
  obtain ⟨registered', paths'⟩ := registered_takeAll p steps'
  have same (r : Rule) : r ∈ rulesOf p steps' ↔ r ∈ rulesOf p steps := (perm.filterMap _).symm.mem_iff
  have selected : (pathsOf steps').Perm (pathsOf steps) := (perm.filterMap _).symm
  have noPaths : ((Builder.new p).takeAll steps').paths.isEmpty = ((Builder.new p).takeAll steps).paths.isEmpty := by
    rw [paths, paths', PathSet.isEmpty_foldl_select, PathSet.isEmpty_foldl_select, selected.isEmpty_eq]
  have meets (qs : List String) :
      ((Builder.new p).takeAll steps').paths.meets qs = ((Builder.new p).takeAll steps).paths.meets qs := by
    rw [paths, paths']
    exact PathSet.meets_perm selected .empty qs
  have left : run'.call = run.call :=
    dispatch_call_congr registered registered' same noPaths meets passive.recording passive'.recording _ _ call
  refine ⟨fun before c => ?_, left, fun k plain => ?_, ?_⟩
  · rw [apply_result, apply_result, takeAll_personalities]
  · have shown (shown : k.priority = 2) : Fired k run'.state.1 ↔ Fired k run.state.1 := by
      rw [finish_fired_shown_iff registered passive s call shown,
        finish_fired_shown_iff registered' passive' s' call shown]
      simp only [same]
      rw [← left]
    cases k with
    | trace =>
      rw [finish_fired_trace_iff registered passive, finish_fired_trace_iff registered' passive']
      simp only [same, noPaths, meets]
    | inject | fault => cases plain
    | read | write | raw | brief | verbose => exact shown rfl
  · rw [finish_injections_eq_nil_iff registered passive, finish_injections_eq_nil_iff registered' passive']
    simp only [same]

theorem finish_reordered_with_refused :
    let p : Personalities := ⟨[⟨"demo", [⟨some "read", .empty⟩, ⟨some "open", .empty⟩]⟩], List.cons_ne_nil _ _⟩
    let steps : List Step := [.clause (.split "raw=open"), .clause (.split "trace=nope"), .path "/tmp",
      .clause (.split "fault=open"), .clause (.split "inject=all:retval=1")]
    let call : Call := { Call.new 0 1 with paths := ["/tmp/"] }
    let run := (((Builder.new p).takeAll steps).finish.1.dispatch (Engine.recording .none) ([], ()) call).2
    let run' := (((Builder.new p).takeAll steps.reverse).finish.1.dispatch (Engine.recording .none) ([], ()) call).2
    steps.Perm steps.reverse ∧ Handler.none.Passive ∧ run'.call = run.call ∧
      (∀ k, k.takesArgs = false → (Fired k run'.state.1 ↔ Fired k run.state.1)) ∧
      (injections run'.state.1 = [] ↔ injections run.state.1 = []) := by
  intro p steps call run run'
  have perm : steps.Perm steps.reverse := (List.reverse_perm steps).symm
  have passive : Handler.none.Passive := fun _ _ _ _ => rfl
  obtain ⟨-, same⟩ := finish_reordered p perm passive passive () () call
  refine ⟨perm, passive, ?_⟩
  -- The two runs are compared as they stand, and need not be computed.
  clear_value p steps call
  exact same

end Builder

end SyscallFilter
