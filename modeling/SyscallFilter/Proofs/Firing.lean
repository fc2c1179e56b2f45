import SyscallFilter.Proofs.Completion
import SyscallFilter.Proofs.Decisions

/-!
# Which injection fires

A call is injected into once. Newer actions run first, so it is the last clause that selects the call whose
injection is used.
-/

namespace SyscallFilter

/-- The handler never takes back that a call was injected into. -/
def Handler.KeepsInjected {σ : Type} (h : Handler σ) : Prop :=
  ∀ s c k d, c.decisions.has .inject = true → (h s c k d).2.decisions.has .inject = true

theorem Handler.Passive.keepsInjected {σ : Type} {h : Handler σ} (passive : h.Passive) : h.KeepsInjected := by
  intro s c k d injected
  rw [passive]
  exact injected

/-- The calls of a handler on behalf of actions that inject. -/
def injections (log : List Invocation) : List Invocation := log.filter (·.kind.takesArgs)

/-! ## Kinds with arguments -/

namespace ActionKind

theorem decision_eq_inject_iff_takesArgs (k : ActionKind) : k.decision = .inject ↔ k.takesArgs = true := by
  cases k <;> decide

variable {k : ActionKind}

theorem considers_of_takesArgs (args : k.takesArgs = true) (c : Call) : k.considers c = !c.decisions.has .inject := by
  cases k <;> first | rfl | nomatch args

theorem priority_of_takesArgs (args : k.takesArgs = true) : k.priority = 1 := by
  cases k <;> first | rfl | nomatch args

theorem filterKind_of_takesArgs (args : k.takesArgs = true) : k.filterKind = .syscall := by
  cases k <;> first | rfl | nomatch args

end ActionKind

theorem Call.has_inject_decided (c : Call) (k : ActionKind) :
    (c.decided k).decisions.has .inject = true ↔ c.decisions.has .inject = true ∨ k.takesArgs = true := by
  rw [decided, Decision.has_insert_iff, k.decision_eq_inject_iff_takesArgs]

/-- What the handler gets from an action, if it applies to the call. -/
def Action.payload? (p : Personalities) (call : Call) (a : Action) : Option (ActionKind × Option Injection) :=
  if a.applies call p then some (a.kind, a.data) else none

namespace Engine

variable {σ : Type} {h : Handler σ} (p : Personalities)

/-! ## At most one injection -/

theorem injections_of_injected (keeps : h.KeepsInjected) (as : List Action) (s : σ) {c : Call}
    (injected : c.decisions.has .inject = true) : injections (walk p h as s c).log = [] := by
  induction as generalizing s c with
  | nil => rfl
  | cons a rest ih =>
    rw [walk]
    split
    next fires =>
      have plain : a.kind.takesArgs = false := by
        by_contra args
        rw [ActionKind.considers_of_takesArgs (by simpa using args), injected] at fires
        cases fires
      have kept := keeps s (c.decided a.kind) a.kind a.data ((c.has_inject_decided a.kind).mpr (.inl injected))
      have later := ih (h s (c.decided a.kind) a.kind a.data).1 kept
      simpa [injections, plain] using later
    next => exact ih s injected

theorem length_injections_le (keeps : h.KeepsInjected) (as : List Action) (s : σ) (c : Call) :
    (injections (walk p h as s c).log).length ≤ 1 := by
  induction as generalizing s c with
  | nil => exact Nat.zero_le 1
  | cons a rest ih =>
    rw [walk]
    split
    next =>
      have later := ih (h s (c.decided a.kind) a.kind a.data).1 (h s (c.decided a.kind) a.kind a.data).2
      cases args : a.kind.takesArgs with
      | false => simpa [injections, args] using later
      | true =>
        -- From here on the call carries the decision, and no later action gets past it.
        have kept := keeps s (c.decided a.kind) a.kind a.data ((c.has_inject_decided a.kind).mpr (.inr args))
        have none := injections_of_injected p keeps rest (h s (c.decided a.kind) a.kind a.data).1 kept
        simpa [injections, args] using none
    next => exact ih s c

/-! ## Which one it is -/

theorem injections_of_passive (passive : h.Passive) (as : List Action) (s : σ) {c : Call}
    (fresh : c.decisions.has .inject = false) :
    (injections (walk p h as s c).log).map (fun i => (i.kind, i.data)) =
      ((as.filter (·.kind.takesArgs)).findSome? (·.payload? p c)).toList := by
  induction as generalizing s c with
  | nil => rfl
  | cons a rest ih =>
    have next : (h s (c.decided a.kind) a.kind a.data).2 = c.decided a.kind := passive _ _ _ _
    simp only [walk, List.filter_cons, next]
    cases args : a.kind.takesArgs with
    | true =>
      have injected : (c.decided a.kind).decisions.has .inject = true := (c.has_inject_decided a.kind).mpr (.inr args)
      have none := injections_of_injected p passive.keepsInjected rest (h s (c.decided a.kind) a.kind a.data).1 injected
      rw [ActionKind.considers_of_takesArgs args, fresh, if_pos rfl, List.findSome?_cons, Action.payload?]
      cases a.applies c p with
      | true => simpa [injections, args] using none
      | false => exact ih s fresh
    | false =>
      have unchanged : (c.decided a.kind).decisions.has .inject = false := by
        rw [← Bool.not_eq_true, Call.has_inject_decided, fresh, args]
        decide
      split
      next =>
        have later := ih (h s (c.decided a.kind) a.kind a.data).1 unchanged
        simpa [injections, args, Action.payload?] using later
      next => simpa using ih s fresh

end Engine

/-! ## The order of injections -/

namespace Builder

theorem filter_finalActions (b : Builder) :
    b.finalActions.filter (·.kind.takesArgs) = b.actions.filter (·.kind.takesArgs) := by
  have traced : b.withTrace.filter (·.kind.takesArgs) = b.actions.filter (·.kind.takesArgs) := by
    unfold withTrace
    split
    · rfl
    · rw [List.filter_append]
      exact List.append_nil _
  unfold finalActions
  split
  · rfl
  · rw [List.filter_map, ← traced]
    have args (a : Action) : (if a.kind = .trace then a.narrowed b.personalities b.paths else a).kind.takesArgs =
        a.kind.takesArgs := by
      split <;> rfl
    have others : ∀ a ∈ b.withTrace.filter (·.kind.takesArgs), a.kind ≠ .trace := by
      intro a mem trace
      have := (List.mem_filter.mp mem).2
      simp [trace, ActionKind.takesArgs] at this
    simp only [Function.comp_def, args]
    exact map_eq_self_of_ne others _

theorem filter_finish_actions {p : Personalities} {grants : List Grant} {b : Builder}
    (granted : Granted p grants b) :
    b.finish.1.actions.filter (·.kind.takesArgs) = (b.actions.filter (·.kind.takesArgs)).reverse := by
  have perm : (b.finish.1.actions.filter (·.kind.takesArgs)).Perm (b.actions.filter (·.kind.takesArgs)).reverse := by
    rw [← b.filter_finalActions]
    exact ((finish_perm granted).filter _).trans (List.reverse_perm _).symm
  have finished : (b.finish.1.actions.filter (·.kind.takesArgs)).Pairwise fun a a' => a'.id < a.id := by
    refine ((finish_strict granted).filter _).imp_of_mem fun {a a'} mem mem' before => ?_
    rw [ActionKind.priority_of_takesArgs (List.mem_filter.mp mem).2,
      ActionKind.priority_of_takesArgs (List.mem_filter.mp mem').2] at before
    omega
  have built : (b.actions.filter (·.kind.takesArgs)).reverse.Pairwise fun a a' => a'.id < a.id := by
    have numbered : (b.actions.map (·.id)).Pairwise (· < ·) := granted.numbered ▸ List.pairwise_lt_range
    exact List.pairwise_reverse.mpr ((List.pairwise_map.mp numbered).filter _)
  -- Both lists have the same actions in falling order of their ids.
  refine perm.eq_of_pairwise (fun a a' _ _ before after => ?_) finished built
  exact absurd before (Nat.lt_asymm after)

theorem finish_personalities (b : Builder) : b.finish.1.personalities = b.personalities := by
  rw [finish_eq]
  exact b.limited_personalities

theorem has_inject_enter {p : Personalities} {grants : List Grant} {b : Builder} (granted : Granted p grants b)
    (call : Call) : (b.finish.1.enter call).decisions.has .inject = call.decisions.has .inject := by
  have noDefault : b.finish.1.defaults.has .inject = false := by
    unfold Flags.has
    rw [finish_defaults granted, Flags.testBit_diff]
    exact Bool.false_and _
  unfold Engine.enter
  rw [Flags.has_union, noDefault, Bool.or_false]

end Builder

/-! ## Clauses that inject -/

/-- What a clause injects into a call, if it injects at all and selects the call. -/
def Clause.injects? (p : Personalities) (call : Call) (c : Clause) : Option (ActionKind × Injection) := do
  let k ← c.kind?.filter (·.takesArgs)
  let f ← (Filter.parse .syscall c.main p .clause).1.toOption
  let i ← Injection.parse? c.args (k = .fault) .clause
  if f.holds call p then some (k, i) else none

theorem Clause.injects?_of_plain {c : Clause} {k : ActionKind} (kind : c.kind? = some k) (plain : k.takesArgs = false)
    (p : Personalities) (call : Call) : c.injects? p call = none := by
  simp [injects?, kind, plain]

/-- What the handler should get for a demand, if it is for a clause that injects into the call. -/
def Demand.payload? (p : Personalities) (call : Call) (d : Demand) : Option (ActionKind × Option Injection) :=
  (d.clause.bind (Clause.injects? p call)).map (Prod.map id some)

theorem Demand.payload?_of_plain {d : Demand} (named : d.Named) (plain : d.kind.takesArgs = false)
    (p : Personalities) (call : Call) : d.payload? p call = none := by
  unfold payload?
  cases clause : d.clause with
  | none => rfl
  | some c => rw [Option.bind_some, Clause.injects?_of_plain (named c clause) plain, Option.map_none]

theorem Demand.Owns.payload?_eq {p : Personalities} {d : Demand} {a : Action} (owns : d.Owns p a)
    (alts : a.Alternatives) (args : d.kind.takesArgs = true) (named : d.Named) (call : Call) :
    d.payload? p call = a.payload? p call := by
  unfold Demand.payload? Action.payload?
  have applies := Action.applies_of_alternatives alts call p
  cases clause : d.clause with
  | none =>
    obtain ⟨filters, -⟩ := owns.bare clause
    rw [filters] at applies
    simpa using applies
  | some c =>
    obtain ⟨f, i, described, parsed, filters, data⟩ := owns.clause c clause
    have read : (Filter.parse .syscall c.main p .clause).1 = .ok f :=
      ActionKind.filterKind_of_takesArgs args ▸ described
    have same : a.applies call p = f.holds call p := by
      rw [Bool.eq_iff_iff, applies, filters]
      simp only [List.mem_singleton, exists_eq_left]
    have kind : c.kind?.filter (·.takesArgs) = some d.kind := by
      rw [named c clause]
      exact if_pos args
    have injects : c.injects? p call = if f.holds call p then some (d.kind, i) else none := by
      unfold Clause.injects?
      rw [kind, read]
      simp [parsed, Except.toOption]
    rw [Option.bind_some, injects, same, owns.kind, data]
    cases f.holds call p <;> rfl

theorem Registry.payloads {p : Personalities} {demands : List Demand} {b : Builder} (registry : Registry p demands b)
    (named : ∀ d ∈ demands, d.Named) (call : Call) :
    ((demands.filterMap (·.clause)).filterMap (Clause.injects? p call)).map (Prod.map id some) =
      (b.actions.filter (·.kind.takesArgs)).filterMap (·.payload? p call) := by
  calc ((demands.filterMap (·.clause)).filterMap (Clause.injects? p call)).map (Prod.map id some)
    _ = demands.filterMap (·.payload? p call) := by
      rw [List.filterMap_filterMap, List.map_filterMap]
      rfl
    _ = (demands.filter (·.kind.takesArgs)).filterMap (·.payload? p call) := by
      rw [List.filterMap_filter]
      refine List.filterMap_congr fun d mem => ?_
      split
      next => rfl
      next plain => exact d.payload?_of_plain (named d mem) (by simpa using plain) p call
    _ = (b.actions.filter (·.kind.takesArgs)).filterMap (·.payload? p call) := by
      refine filterMap_eq_of_forall₂ (forall₂_mem registry.own) fun d a ⟨mem, mem', owns⟩ => ?_
      obtain ⟨demanded, args⟩ := List.mem_filter.mp mem
      have alts := registry.alternatives a (List.mem_filter.mp mem').1
      exact owns.payload?_eq alts args (named d demanded) call

/-! ## A whole dispatch -/

namespace Engine

variable {σ : Type}

/-- What a handler is called with, on any engine that was finished, whatever it was used for before. -/
theorem recorded_eq_log (b : Builder) (history : List Turn) (h : Handler σ) (s : σ) (c : Call) :
    ((b.finish.1.after history).dispatch (recording h) ([], s) c).2.state.1 =
      (walk b.personalities h b.finish.1.actions s (b.finish.1.enter c)).log := by
  obtain ⟨state, -⟩ := dispatch_after b history (recording h) ([], s) c
  obtain ⟨log, -⟩ := walk_recording b.personalities h b.finish.1.actions [] s (b.finish.1.enter c)
  rw [state, b.finish_personalities, log]
  rfl

theorem has_enter (e : Engine) {c : Call} {d : Decision} (already : c.decisions.has d = true) :
    (e.enter c).decisions.has d = true := by
  unfold enter
  rw [Flags.has_union, already, Bool.true_or]

/-- A dispatch injects at most once, and never into a call that was injected into. Of a whole configuration it is
the last accepted clause that selects the call whose injection is handed over. -/
theorem dispatch_injects_last {h : Handler σ} (keeps : h.KeepsInjected) (history : List Turn) (s : σ) (c : Call) :
    let fired (b : Builder) :=
      injections ((b.finish.1.after history).dispatch (recording h) ([], s) c).2.state.1
    (∀ b, (fired b).length ≤ 1 ∧ (c.decisions.has .inject = true → fired b = [])) ∧
      (h.Passive → c.decisions.has .inject = false → ∀ (p : Personalities) (requests : List Request),
        let accepted := ((Builder.new p).demands requests).filterMap (·.clause)
        (fired ((Builder.new p).serveAll requests)).map (fun i => (i.kind, i.data)) =
          ((accepted.filterMap (Clause.injects? p c)).getLast?.map (Prod.map id some)).toList) := by
  intro fired
  refine ⟨fun b => ?_, fun passive fresh p requests => ?_⟩
  · simp only [fired, recorded_eq_log]
    refine ⟨length_injections_le _ keeps _ s _, fun injected => ?_⟩
    exact injections_of_injected _ keeps _ s (b.finish.1.has_enter injected)
  · intro accepted
    obtain ⟨granted, -⟩ := (granted_new p).serveAll requests
    have registry := registry_serveAll p requests
    have named : ∀ d ∈ (Builder.new p).demands requests, d.Named := fun d mem => Builder.named_of_mem_demands mem
    let b := (Builder.new p).serveAll requests
    have same : Call.SameBut c (b.finish.1.enter c) := ⟨rfl, rfl, rfl, rfl, rfl⟩
    have newest : (b.finish.1.actions.filter (·.kind.takesArgs)).findSome? (·.payload? p c) =
        ((b.actions.filter (·.kind.takesArgs)).filterMap (·.payload? p c)).getLast? := by
      rw [Builder.filter_finish_actions granted, ← List.head?_filterMap, List.filterMap_reverse, List.head?_reverse]
    have entered : (b.finish.1.enter c).decisions.has .inject = false :=
      (Builder.has_inject_enter granted c).trans fresh
    simp only [fired, recorded_eq_log]
    rw [injections_of_passive _ passive _ s entered, registry.personalities]
    simp only [Action.payload?, same.applies] at newest ⊢
    rw [newest, ← List.getLast?_map, registry.payloads named c]
    rfl

theorem dispatch_injects_newest_fault :
    let p : Personalities := ⟨[⟨"demo", [⟨some "read", .empty⟩, ⟨some "open", .empty⟩]⟩], List.cons_ne_nil _ _⟩
    let requests : List Request := [.qualify "inject=open:retval=7", .qualify "fault=all:error=EPERM:when=2",
      .qualify "fault=open:when=0", .qualify "inject=read:signal=9"]
    let fired := injections ((((Builder.new p).serveAll requests).finish.1.after []).dispatch
      (recording .none) ([], ()) (.new 0 1)).2.state.1
    Handler.none.KeepsInjected ∧ Handler.none.Passive ∧ (Call.new 0 1).decisions.has .inject = false ∧
      fired.map (fun i => (i.kind, i.data)) = [(.fault, some ⟨2, 0, .error 1, 0⟩)] := by
  -- The newest clause does not select the call, and the one before it wins over an older one of the other kind.
  intro p requests fired
  have passive : Handler.none.Passive := fun _ _ _ _ => rfl
  refine ⟨passive.keepsInjected, passive, rfl, ?_⟩
  obtain ⟨-, last⟩ := dispatch_injects_last passive.keepsInjected [] () (.new 0 1)
  exact (last passive rfl p requests).trans (by decide +kernel)

end Engine

end SyscallFilter
