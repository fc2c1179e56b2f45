import Mathlib.Algebra.Group.Nat.Defs
import SyscallFilter.Proofs.Filter
import SyscallFilter.Proofs.Firing

/-!
# Calls that no filter tells apart

Filters look at the personality and the number of a call, at the low halves of its descriptors and at the components
of its paths. Two calls that agree in these are decided alike, whatever an engine was used for before.
-/

namespace SyscallFilter

/-! ## Agreement -/

/-- Two calls that are alike to every filter and come with the same decisions. -/
structure Call.Agree (p : Personalities) (c c' : Call) : Prop where
  personality : c'.personality = c.personality
  number : c'.number = c.number
  decisions : c'.decisions = c.decisions
  descriptors : ∀ t e, p.get? c.personality = some t → t.get? c.number = some e →
    ∀ place, e.HasDescriptorAt place → c'.args[place].toNat % 2 ^ 32 = c.args[place].toNat % 2 ^ 32
  paths : List.Forall₂ (fun path path' => Path.components path' = Path.components path) c.paths c'.paths

theorem Call.descriptor_congr {c c' : Call} {place : Fin 6}
    (low : (c'.args.get place).toNat % 2 ^ 32 = (c.args.get place).toNat % 2 ^ 32) :
    c'.descriptor place = c.descriptor place := by
  have half : (c'.args.get place).toUInt32 = (c.args.get place).toUInt32 := by
    rw [← UInt32.toNat_inj, UInt64.toNat_toUInt32, UInt64.toNat_toUInt32, low]
  exact congrArg (·.toInt32.toInt) half

namespace PathSet

theorem contains_congr (s : PathSet) {path path' : String} (same : Path.components path' = Path.components path) :
    s.contains path' = s.contains path := by
  unfold contains Path.same
  rw [same]

theorem meets_congr (s : PathSet) {paths paths' : List String}
    (same : List.Forall₂ (fun path path' => Path.components path' = Path.components path) paths paths') :
    s.meets paths' = s.meets paths := by
  unfold meets
  induction same with
  | nil => rfl
  | cons first _ ih => rw [List.any_cons, List.any_cons, s.contains_congr first, ih]

end PathSet

theorem Filter.holds_of_agree (f : Filter) {p : Personalities} {c c' : Call} (agree : c.Agree p c') :
    f.holds c' p = f.holds c p := by
  cases f with
  | syscall sets => rw [holds, holds, agree.personality, agree.number]
  | path paths => exact paths.meets_congr agree.paths
  | fd set =>
    rw [holds, holds, agree.personality, agree.number]
    cases found : (p.get? c.personality).bind (·.get? c.number) with
    | none => rw [Option.any_none, Option.any_none]
    | some e =>
      obtain ⟨t, table, entry⟩ := Option.bind_eq_some_iff.mp found
      have each : ∀ place ∈ placesOf e,
          hasDescriptor set (c'.descriptor place) = hasDescriptor set (c.descriptor place) := by
        intro place mem
        have low := agree.descriptors t e table entry place ((mem_placesOf_iff e place).mp mem)
        rw [Call.descriptor_congr low]
      rw [Option.any_some, Option.any_some, Bool.eq_iff_iff, List.any_eq_true, List.any_eq_true]
      exact exists_congr fun place => and_congr_right fun mem => by rw [each place mem]

theorem Action.applies_of_agree (a : Action) {p : Personalities} {c c' : Call} (agree : c.Agree p c') :
    a.applies c' p = a.applies c p :=
  applies_congr fun f _ => f.holds_of_agree agree

/-! ## Two runs -/

/-- What an invocation tells apart from the call itself: the action, what it injects, and what is decided by then. -/
def Invocation.report (i : Invocation) : ActionKind × Option Injection × Decisions :=
  (i.kind, i.data, i.call.decisions)

/-- Two actions of one kind and with one injection that apply to two calls alike. -/
structure Action.Matches (p : Personalities) (c c' : Call) (a a' : Action) : Prop where
  kind : a'.kind = a.kind
  data : a'.data = a.data
  applies : a'.applies c' p = a.applies c p

theorem ActionKind.considers_congr (k : ActionKind) {c c' : Call} (decisions : c'.decisions = c.decisions) :
    k.considers c' = k.considers c := by
  cases k <;> simp only [considers, Call.isTraced, Call.notInjected, decisions]

namespace Engine

variable {σ τ : Type} {h : Handler σ} {h' : Handler τ} (p : Personalities)

theorem walk_congr (passive : h.Passive) (passive' : h'.Passive) {as as' : List Action} {c c' : Call}
    (decisions : c'.decisions = c.decisions) (alike : List.Forall₂ (Action.Matches p c c') as as') (s : σ) (s' : τ) :
    (walk p h' as' s' c').log.map Invocation.report = (walk p h as s c).log.map Invocation.report ∧
      (walk p h' as' s' c').call.decisions = (walk p h as s c).call.decisions := by
  induction as generalizing as' c c' s s' with
  | nil =>
    cases alike
    exact ⟨rfl, decisions⟩
  | cons a rest ih =>
    obtain _ | ⟨first, others⟩ := alike
    rename_i a' rest'
    rw [walk, walk, a'.kind.considers_congr decisions, first.kind, first.applies, first.data]
    split
    · -- Only decisions are added, the same to both calls, and no filter looks at these.
      have decided : (c'.decided a.kind).decisions = (c.decided a.kind).decisions := by
        unfold Call.decided
        rw [decisions]
      have later : List.Forall₂ (Action.Matches p (c.decided a.kind) (c'.decided a.kind)) rest rest' := by
        refine others.imp fun b b' alike => ⟨alike.kind, alike.data, ?_⟩
        rw [Call.applies_decided, Call.applies_decided, alike.applies]
      have next : (h s (c.decided a.kind) a.kind a.data).2 = c.decided a.kind := passive _ _ _ _
      have next' : (h' s' (c'.decided a.kind) a.kind a.data).2 = c'.decided a.kind := passive' _ _ _ _
      obtain ⟨log, left⟩ := ih decided later (h s (c.decided a.kind) a.kind a.data).1
        (h' s' (c'.decided a.kind) a.kind a.data).1
      simp only [next, next', List.map_cons, log, left, Invocation.report, decided, and_self]
    · exact ih decisions others s s'

theorem recorded_call (b : Builder) (history : List Turn) (h : Handler σ) (s : σ) (c : Call) :
    ((b.finish.1.after history).dispatch (recording h) ([], s) c).2.call =
      (walk b.personalities h b.finish.1.actions s (b.finish.1.enter c)).call := by
  obtain ⟨-, call⟩ := dispatch_after b history (recording h) ([], s) c
  obtain ⟨-, left⟩ := walk_recording b.personalities h b.finish.1.actions [] s (b.finish.1.enter c)
  rw [call, b.finish_personalities, left]

theorem dispatch_of_matches {b b' : Builder} (same : b'.personalities = b.personalities) {c c' : Call}
    (entered : (b'.finish.1.enter c').decisions = (b.finish.1.enter c).decisions)
    (alike : List.Forall₂ (Action.Matches b.personalities (b.finish.1.enter c) (b'.finish.1.enter c'))
      b.finish.1.actions b'.finish.1.actions)
    (history history' : List Turn) (passive : h.Passive) (passive' : h'.Passive) (s : σ) (s' : τ) :
    let run := ((b.finish.1.after history).dispatch (recording h) ([], s) c).2
    let run' := ((b'.finish.1.after history').dispatch (recording h') ([], s') c').2
    run'.state.1.map Invocation.report = run.state.1.map Invocation.report ∧
      run'.call.decisions = run.call.decisions := by
  intro run run'
  simp only [run, run', recorded_eq_log, recorded_call, same]
  exact walk_congr b.personalities passive passive' entered alike s s'

/-- Two calls that agree are decided alike: the same actions apply in the same order, hand over the same injections
and leave the same decisions. The process, the other arguments, the high halves of descriptors, the spelling of paths
and what was dispatched before have no part in it. -/
theorem dispatch_of_agree (b : Builder) (history history' : List Turn) (passive : h.Passive) (passive' : h'.Passive)
    (s : σ) (s' : τ) {c c' : Call} (agree : c.Agree b.personalities c') :
    let run := ((b.finish.1.after history).dispatch (recording h) ([], s) c).2
    let run' := ((b.finish.1.after history').dispatch (recording h') ([], s') c').2
    run'.state.1.map Invocation.report = run.state.1.map Invocation.report ∧
      run'.call.decisions = run.call.decisions := by
  intro run run'
  have entered : (b.finish.1.enter c').decisions = (b.finish.1.enter c).decisions := by
    unfold enter
    rw [agree.decisions]
  have unseen (c : Call) : Call.SameBut c (b.finish.1.enter c) := ⟨rfl, rfl, rfl, rfl, rfl⟩
  have alike : List.Forall₂ (Action.Matches b.personalities (b.finish.1.enter c) (b.finish.1.enter c'))
      b.finish.1.actions b.finish.1.actions := by
    refine List.forall₂_same.mpr fun a _ => ⟨rfl, rfl, ?_⟩
    rw [(unseen c').applies, (unseen c).applies, a.applies_of_agree agree]
  simp only [run, run', recorded_eq_log, recorded_call]
  exact walk_congr b.personalities passive passive' entered alike s s'

theorem dispatch_of_agree_dup2 :
    let p : Personalities := ⟨[⟨"demo", [⟨some "dup2", .empty⟩]⟩], List.cons_ne_nil _ _⟩
    let b := (Builder.new p).takeAll [.clause (.split "read=9"), .clause (.split "fault=dup2"), .path "/tmp/x"]
    let c : Call := ⟨1, 0, 0, #v[3, 9, 0, 0, 0, 0], ["/tmp/x"], .empty⟩
    let c' : Call := ⟨2, 0, 0, #v[0x100000003, 0xffffffff00000009, 7, 0, 0, 0], ["/tmp//./x/"], .empty⟩
    let before : List Turn := [⟨Unit, .none, (), c⟩]
    let run := ((b.finish.1.after []).dispatch (recording .none) ([], ()) c).2
    let run' := ((b.finish.1.after before).dispatch (recording .none) ([], ()) c').2
    Handler.none.Passive ∧ c.Agree b.personalities c' ∧
      run'.state.1.map Invocation.report = run.state.1.map Invocation.report ∧
      run'.call.decisions = run.call.decisions := by
  -- Descriptors with other high halves, another third argument, another process and another spelling of the path.
  intro p b c c' before run run'
  have passive : Handler.none.Passive := fun _ _ _ _ => rfl
  have agree : c.Agree p c' := by
    refine ⟨rfl, rfl, rfl, ?_, .cons (by decide) .nil⟩
    rintro t e ⟨⟩ ⟨⟩ place descriptor
    rw [← Filter.mem_placesOf_iff] at descriptor
    revert place
    decide
  have personalities : b.personalities = p := (Builder.registered_takeAll p _).1.personalities
  exact ⟨passive, personalities ▸ agree,
    dispatch_of_agree b [] before passive passive () () (personalities ▸ agree)⟩

end Engine

end SyscallFilter
