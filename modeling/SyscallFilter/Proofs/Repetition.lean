import SyscallFilter.Proofs.Agreement

/-!
# Dispatching a call again

A call that keeps its decisions can be sent through an engine again. Nothing more is decided about it, the actions
without arguments that applied do so again in their order, and nothing is injected.
-/

namespace SyscallFilter

theorem Flags.insert_of_has {α : Type} [Flag α] {s : Flags α} {a : α} (has : s.has a = true) : s.insert a = s := by
  refine Flags.ext_testBit fun i => ?_
  rw [Flags.testBit_insert, Bool.or_eq_left_iff_imp, decide_eq_true_eq]
  rintro rfl
  exact has

theorem ActionKind.eq_trace_or_shown {k : ActionKind} (plain : k.takesArgs = false) : k = .trace ∨ k.priority = 2 := by
  revert plain
  cases k <;> decide

namespace Call

variable (p : Personalities)

theorem decided_of_has {c : Call} {k : ActionKind} (has : c.decisions.has k.decision = true) : c.decided k = c := by
  unfold decided
  rw [Flags.insert_of_has has]

/-! ## What stays -/

theorem le_settle (c : Call) (a : Action) : c.decisions ≤ (c.settle p a).decisions := by
  intro i decided
  unfold settle
  split
  · rw [Call.decided, Flags.testBit_insert, decided, Bool.true_or]
  · exact decided

theorem le_foldl_settle (as : List Action) (c : Call) : c.decisions ≤ (as.foldl (settle p) c).decisions := by
  induction as generalizing c with
  | nil => exact fun _ decided => decided
  | cons a rest ih => exact fun i decided => ih (c.settle p a) i (c.le_settle p a i decided)

theorem foldl_settle_of_settled {as : List Action} {c : Call} (settled : ∀ a ∈ as, c.settle p a = c) :
    as.foldl (settle p) c = c := by
  induction as with
  | nil => rfl
  | cons a rest ih =>
    obtain ⟨first, later⟩ := List.forall_mem_cons.mp settled
    rw [List.foldl_cons, first, ih later]

theorem has_inject_foldl_settle {as : List Action} {c : Call} {a : Action} (mem : a ∈ as)
    (args : a.kind.takesArgs = true) (applies : a.applies c p = true) :
    (as.foldl (settle p) c).decisions.has .inject = true := by
  have kind := (a.kind.decision_eq_inject_iff).mp ((a.kind.decision_eq_inject_iff_takesArgs).mpr args)
  rw [injected_foldl_settle]
  exact .inr ⟨a, mem, kind, applies⟩

theorem settle_foldl_settle {as : List Action} (sorted : as.Pairwise fun a a' => a.kind.priority ≤ a'.kind.priority)
    (c : Call) {a : Action} (mem : a ∈ as) : (as.foldl (settle p) c).settle p a = as.foldl (settle p) c := by
  have same : SameBut c (as.foldl (settle p) c) := sameBut_foldl_settle p as c
  rw [settle]
  split
  next fires =>
    rw [Bool.and_eq_true, same.applies] at fires
    obtain ⟨considered, applies⟩ := fires
    apply decided_of_has
    cases args : a.kind.takesArgs with
    | true =>
      rw [(a.kind.decision_eq_inject_iff_takesArgs).mpr args]
      exact has_inject_foldl_settle p mem args applies
    | false =>
      rcases ActionKind.eq_trace_or_shown args with trace | shown
      · rw [trace]
        exact (traced_foldl_settle p as c).mpr (.inr ⟨a, mem, trace, applies⟩)
      · rw [ActionKind.considers_of_shown shown] at considered
        exact (shown_foldl_settle p shown sorted c).mpr (.inr ⟨considered, a, mem, rfl, applies⟩)
  next => rfl

theorem considers_foldl_settle {a : Action} {rest : List Action} (plain : a.kind.takesArgs = false)
    (sorted : (a :: rest).Pairwise fun a a' => a.kind.priority ≤ a'.kind.priority) (c : Call) :
    a.kind.considers (rest.foldl (settle p) (c.settle p a)) = a.kind.considers c := by
  rcases ActionKind.eq_trace_or_shown plain with trace | shown
  · rw [trace]
    rfl
  · rw [ActionKind.considers_of_shown shown, ActionKind.considers_of_shown shown, Bool.eq_iff_iff]
    exact traced_of_shown p shown sorted c

end Call

namespace Engine

/-! ## The actions that apply -/

/-- The actions that apply to a call on its way through them, if nothing else changes it. -/
def applying (p : Personalities) : List Action → Call → List Action
  | [], _ => []
  | a :: rest, c => (if a.kind.considers c && a.applies c p then [a] else []) ++ applying p rest (c.settle p a)

def applied (e : Engine) (c : Call) : List Action := applying e.personalities e.actions (e.enter c)

/-- The call with all decisions on it, if nothing else changes it. -/
def left (e : Engine) (c : Call) : Call := e.actions.foldl (Call.settle e.personalities) (e.enter c)

variable {σ τ : Type} {h : Handler σ} {h' : Handler τ} (p : Personalities)

theorem log_of_passive (passive : h.Passive) (as : List Action) (s : σ) (c : Call) :
    (walk p h as s c).log.map (fun i => (i.kind, i.data)) = (applying p as c).map fun a => (a.kind, a.data) := by
  induction as generalizing s c with
  | nil => rfl
  | cons a rest ih =>
    have next : (h s (c.decided a.kind) a.kind a.data).2 = c.decided a.kind := passive _ _ _ _
    simp only [walk, applying, next, Call.settle]
    split
    · simp [ih]
    · simp [ih]

theorem applying_of_settled {as : List Action} {c : Call} (settled : ∀ a ∈ as, c.settle p a = c) :
    applying p as c = as.filter fun a => a.kind.considers c && a.applies c p := by
  induction as with
  | nil => rfl
  | cons a rest ih =>
    obtain ⟨first, later⟩ := List.forall_mem_cons.mp settled
    rw [applying, first, ih later, List.filter_cons]
    split <;> rfl

theorem filter_applying {as : List Action} (sorted : as.Pairwise fun a a' => a.kind.priority ≤ a'.kind.priority)
    (c : Call) :
    (applying p as c).filter (!·.kind.takesArgs) =
      as.filter fun a => !a.kind.takesArgs && (a.kind.considers (as.foldl (Call.settle p) c) && a.applies c p) := by
  induction as generalizing c with
  | nil => rfl
  | cons a rest ih =>
    obtain ⟨-, later⟩ := List.pairwise_cons.mp sorted
    rw [applying, List.filter_append, ih later, List.filter_cons, List.foldl_cons]
    simp only [Call.applies_settle]
    cases plain : a.kind.takesArgs with
    | true => cases a.kind.considers c && a.applies c p <;> simp [plain]
    | false =>
      rw [Call.considers_foldl_settle p plain sorted]
      cases a.kind.considers c && a.applies c p <;> simp [plain]

/-! ## A second time -/

theorem applying_foldl_settle {as : List Action} (sorted : as.Pairwise fun a a' => a.kind.priority ≤ a'.kind.priority)
    (c : Call) :
    applying p as (as.foldl (Call.settle p) c) = (applying p as c).filter (!·.kind.takesArgs) := by
  have settled : ∀ a ∈ as, (as.foldl (Call.settle p) c).settle p a = as.foldl (Call.settle p) c :=
    fun a mem => Call.settle_foldl_settle p sorted c mem
  have same : Call.SameBut c (as.foldl (Call.settle p) c) := Call.sameBut_foldl_settle p as c
  rw [applying_of_settled p settled, filter_applying p sorted]
  refine List.filter_congr fun a mem => ?_
  rw [same.applies]
  cases args : a.kind.takesArgs with
  | false => rw [Bool.not_false, Bool.true_and]
  | true =>
    rw [Bool.not_true, Bool.false_and, Bool.and_eq_false_imp]
    intro considered
    by_contra applies
    -- It would have been injected then, and is not considered twice.
    have injected := Call.has_inject_foldl_settle p mem args (by simpa using applies)
    rw [ActionKind.considers_of_takesArgs args, injected] at considered
    cases considered

theorem enter_of_le {e : Engine} {c : Call} (kept : e.defaults ≤ c.decisions) : e.enter c = c := by
  have union : c.decisions.union e.defaults = c.decisions := by
    refine Flags.ext_testBit fun i => ?_
    rw [Flags.testBit_union, Bool.or_eq_left_iff_imp]
    exact kept i
  unfold enter
  rw [union]

theorem enter_left (e : Engine) (c : Call) : e.enter (e.left c) = e.left c := by
  refine enter_of_le fun i default => Call.le_foldl_settle e.personalities e.actions (e.enter c) i ?_
  rw [enter, Flags.testBit_union, default, Bool.or_true]

section Sorted

variable {e : Engine} (sorted : e.actions.Pairwise fun a a' => a.kind.priority ≤ a'.kind.priority) (c : Call)

include sorted

theorem left_left : e.left (e.left c) = e.left c := by
  rw [left, enter_left]
  exact Call.foldl_settle_of_settled e.personalities fun a mem =>
    Call.settle_foldl_settle e.personalities sorted (e.enter c) mem

theorem applied_left : e.applied (e.left c) = (e.applied c).filter (!·.kind.takesArgs) := by
  rw [applied, enter_left]
  exact applying_foldl_settle e.personalities sorted (e.enter c)

end Sorted

/-! ## Finished engines -/

theorem recorded_left (b : Builder) (passive : h.Passive) (history : List Turn) (s : σ) (c : Call) :
    ((b.finish.1.after history).dispatch (recording h) ([], s) c).2.call = b.finish.1.left c := by
  rw [recorded_call, walk_passive passive, left, b.finish_personalities]

theorem recorded_applied (b : Builder) (passive : h.Passive) (history : List Turn) (s : σ) (c : Call) :
    ((b.finish.1.after history).dispatch (recording h) ([], s) c).2.state.1.map (fun i => (i.kind, i.data)) =
      (b.finish.1.applied c).map (fun a => (a.kind, a.data)) := by
  rw [recorded_eq_log, log_of_passive b.personalities passive, applied, b.finish_personalities]

/-- The call that a finished engine leaves has all its decisions. Sent through the engine again it comes back as it is:
the actions without arguments that applied do so again in their order, and nothing is injected. -/
theorem dispatch_again (b : Builder) (passive : h.Passive) (passive' : h'.Passive) (history between : List Turn)
    (s : σ) (s' : τ) (c : Call) :
    let e := b.finish.1
    let first := (e.after history).dispatch (recording h) ([], s) c
    let again := (first.1.after between).dispatch (recording h') ([], s') first.2.call
    again.2.call = first.2.call ∧
      e.applied first.2.call = (e.applied c).filter (!·.kind.takesArgs) ∧
      first.2.state.1.map (fun i => (i.kind, i.data)) = (e.applied c).map (fun a => (a.kind, a.data)) ∧
      again.2.state.1.map (fun i => (i.kind, i.data)) = (e.applied first.2.call).map (fun a => (a.kind, a.data)) ∧
      injections again.2.state.1 = [] := by
  intro e first again
  have used : first.1.after between = e.after (history ++ ⟨_, recording h, ([], s), c⟩ :: between) := by
    simp only [first, after, List.foldl_append, List.foldl_cons]
  have once : first.2.call = e.left c := recorded_left b passive history s c
  have applied : e.applied first.2.call = (e.applied c).filter (!·.kind.takesArgs) := by
    rw [once, applied_left b.finish_sorted]
  have log : again.2.state.1.map (fun i => (i.kind, i.data)) =
      (e.applied first.2.call).map (fun a => (a.kind, a.data)) := by
    simp only [again, used]
    exact recorded_applied b passive' _ s' first.2.call
  refine ⟨?_, applied, recorded_applied b passive history s c, log, ?_⟩
  · have twice : again.2.call = e.left first.2.call := by
      simp only [again, used]
      exact recorded_left b passive' _ s' first.2.call
    rw [twice, once, left_left b.finish_sorted]
  · refine List.filter_eq_nil_iff.mpr fun i mem => ?_
    have reported : (i.kind, i.data) ∈ again.2.state.1.map (fun i => (i.kind, i.data)) := List.mem_map_of_mem mem
    rw [log, applied, List.mem_map] at reported
    obtain ⟨a, plain, same⟩ := reported
    have none := (List.mem_filter.mp plain).2
    rw [(Prod.mk.inj same).1] at none
    simpa using none

theorem dispatch_again_injected :
    let p : Personalities := ⟨[⟨"demo", [⟨some "read", .ofList [.desc]⟩, ⟨some "open", .empty⟩]⟩], List.cons_ne_nil _ _⟩
    let b := (Builder.new p).takeAll [.clause (.split "trace=open"), .clause (.split "inject=open:retval=7"),
      .clause (.split "fault=open:error=EPERM"), .clause (.split "raw=all")]
    let first := (b.finish.1.after []).dispatch (recording .none) ([], ()) (.new 0 1)
    let again := (first.1.after []).dispatch (recording .none) ([], ()) first.2.call
    Handler.none.Passive ∧ again.2.call = first.2.call ∧
      again.2.state.1.map (fun i => (i.kind, i.data)) =
        ((b.finish.1.applied (.new 0 1)).filter (!·.kind.takesArgs)).map (fun a => (a.kind, a.data)) ∧
      injections again.2.state.1 = [] := by
  intro p b
  -- The two runs are compared as they stand, and need not be computed.
  clear_value b
  intro first again
  have passive : Handler.none.Passive := fun _ _ _ _ => rfl
  obtain ⟨call, applied, -, log, none⟩ := dispatch_again b passive passive [] [] () () (.new 0 1)
  exact ⟨passive, call, applied ▸ log, none⟩

end Engine

end SyscallFilter
