import SyscallFilter.Proofs.Agreement
import SyscallFilter.Proofs.Reordering
import SyscallFilter.Proofs.Selection

/-!
# A mark in front of a list

One more mark turns the numbers of a list round, and so the calls of a known personality. It does not turn round which
calls have a selected descriptor: a call with several may have a selected one and another one.
-/

namespace SyscallFilter

/-! ## Descriptors -/

theorem Call.descriptor_eq_bmod (c : Call) (place : Fin 6) :
    c.descriptor place = ((c.args.get place).toNat : Int).bmod (2 ^ 32) := by
  have signed : c.descriptor place = (c.args.get place).toUInt32.toBitVec.toInt := rfl
  rw [signed, BitVec.toInt_eq_toNat_bmod, UInt32.toNat_toBitVec, UInt64.toNat_toUInt32, Int.natCast_emod]
  exact Int.emod_bmod _ (2 ^ 32)

namespace NumberSpec

theorem selects_negative_iff {fd : Int} (negative : fd < 0) (mode : Mode) (spec : String) :
    CallSpec.Selects mode (NamesDescriptor fd) spec ↔ (descriptors mode spec).inverted = true := by
  rw [← hasDescriptor_descriptors]
  simp [Filter.hasDescriptor, negative]

end NumberSpec

namespace Filter

open CallSpec NumberSpec

section Marked

variable {p : Personalities} {s : String} {f f' : Filter} (parsed : (parse .fd s p .clause).1 = .ok f)
  (parsed' : (parse .fd ("!" ++ s) p .clause).1 = .ok f') (c : Call)

include parsed' in
theorem holds_fd_mark_iff :
    f'.holds c p = true ↔
      ∃ place, c.HasDescriptorAt p place ∧ ¬ Selects .clause (NamesDescriptor (c.descriptor place)) s := by
  rw [holds_fd_iff parsed' c]
  simp only [selects_mark]

include parsed parsed'

theorem holds_fd_mark_of_one (one : ∃! place, c.HasDescriptorAt p place) : f'.holds c p = !f.holds c p := by
  obtain ⟨place, descriptor, only⟩ := one
  have here (q : Fin 6 → Prop) : (∃ place', c.HasDescriptorAt p place' ∧ q place') ↔ q place := by
    constructor
    · rintro ⟨place', descriptor', h⟩
      exact only place' descriptor' ▸ h
    · exact fun h => ⟨place, descriptor, h⟩
  rw [Bool.eq_iff_iff, holds_fd_mark_iff parsed' c, Bool.not_eq_true', ← Bool.not_eq_true, holds_fd_iff parsed c, here,
    here]

theorem holds_fd_or_mark (some : ∃ place, c.HasDescriptorAt p place) :
    f.holds c p = true ∨ f'.holds c p = true := by
  obtain ⟨place, descriptor⟩ := some
  rw [holds_fd_iff parsed c, holds_fd_mark_iff parsed' c]
  by_cases member : Selects .clause (NamesDescriptor (c.descriptor place)) s
  · exact .inl ⟨place, descriptor, member⟩
  · exact .inr ⟨place, descriptor, member⟩

theorem holds_fd_mark_of_none (none : ∀ place, ¬ c.HasDescriptorAt p place) :
    f.holds c p = false ∧ f'.holds c p = false := by
  rw [← Bool.not_eq_true, ← Bool.not_eq_true, holds_fd_iff parsed c, holds_fd_mark_iff parsed' c]
  simp [none]

end Marked

/-- A filter for descriptors is true if some descriptor of the call is selected, and with one more mark if some is not.
So the two are opposites for calls with one descriptor, and not for others. -/
theorem parse_fd_negated {p : Personalities} {s : String} {f : Filter} (parsed : (parse .fd s p .clause).1 = .ok f) :
    ∃ set f', f = .fd set ∧ (parse .fd ("!" ++ s) p .clause).1 = .ok f' ∧
      (∀ fd : Int, fd < 0 → (Selects .clause (NamesDescriptor fd) s ↔ set.inverted = true)) ∧
      (∀ n : Nat, Selects .clause (NamesDescriptor n) s ↔ set.contains n = true) ∧
      ∀ c : Call,
        let Member (place : Fin 6) := Selects .clause (NamesDescriptor (c.descriptor place)) s
        (∀ place, c.descriptor place = ((c.args.get place).toNat : Int).bmod (2 ^ 32)) ∧
        (f.holds c p = true ↔ ∃ place, c.HasDescriptorAt p place ∧ Member place) ∧
        (f'.holds c p = true ↔
          (∃ place, c.HasDescriptorAt p place) ∧ ¬ ∀ place, c.HasDescriptorAt p place → Member place) ∧
        ((∃! place, c.HasDescriptorAt p place) → f'.holds c p = !f.holds c p) ∧
        ((∃ place, c.HasDescriptorAt p place) → f.holds c p = true ∨ f'.holds c p = true) ∧
        ((∀ place, ¬ c.HasDescriptorAt p place) → f.holds c p = false ∧ f'.holds c p = false) := by
  obtain ⟨accepted, isSet⟩ := parse_fd_eq_ok_iff.mp parsed
  obtain ⟨f', parsed'⟩ : ∃ f', (parse .fd ("!" ++ s) p .clause).1 = .ok f' :=
    ⟨_, parse_fd_eq_ok_iff.mpr ⟨accepted_mark.mpr accepted, rfl⟩⟩
  refine ⟨_, f', isSet, parsed', fun fd negative => selects_negative_iff negative .clause s,
    fun n => selects_iff_contains .clause s n, fun c => ?_⟩
  intro Member
  refine ⟨c.descriptor_eq_bmod, holds_fd_iff parsed c, ?_, holds_fd_mark_of_one parsed parsed' c,
    holds_fd_or_mark parsed parsed' c, holds_fd_mark_of_none parsed parsed' c⟩
  rw [holds_fd_mark_iff parsed' c]
  constructor
  · rintro ⟨place, descriptor, other⟩
    exact ⟨⟨place, descriptor⟩, fun all => other (all place descriptor)⟩
  · rintro ⟨-, notAll⟩
    simpa [Member] using notAll

theorem parse_fd_negated_dup2 :
    let p : Personalities := ⟨[⟨"demo", [⟨some "dup2", .empty⟩]⟩], List.cons_ne_nil _ _⟩
    let c : Call := ⟨1, 0, 0, #v[3, 0xfffffffff, 0, 0, 0, 0], [], .empty⟩
    ∃ f f', (parse .fd "3" p .clause).1 = .ok f ∧ (parse .fd "!3" p .clause).1 = .ok f' ∧
      f.holds c p = true ∧ f'.holds c p = true ∧ c.descriptor 1 = -1 ∧
      ¬ ∀ place, c.HasDescriptorAt p place → Selects .clause (NamesDescriptor (c.descriptor place)) "3" := by
  intro p c
  let f : Filter := .fd (NumberSet.empty.add 3)
  have parsed : (parse .fd "3" p .clause).1 = .ok f := by decide +kernel
  obtain ⟨set, f', -, parsed', -, -, meaning⟩ := parse_fd_negated parsed
  obtain ⟨-, -, negated, -⟩ := meaning c
  have same : f' = .fd (NumberSet.empty.invert.add 3) := Except.ok.inj (parsed'.symm.trans (by decide +kernel))
  have holds' : f'.holds c p = true := by
    rw [same]
    decide +kernel
  exact ⟨f, f', parsed, parsed', by decide +kernel, holds', by decide +kernel, (negated.mp holds').2⟩

/-! ## Calls -/

theorem parse_syscall_mark (p : Personalities) (s : String) :
    ((∃ f, (parse .syscall ("!" ++ s) p .clause).1 = .ok f) ↔ ∃ f, (parse .syscall s p .clause).1 = .ok f) ∧
      ∀ f f', (parse .syscall s p .clause).1 = .ok f → (parse .syscall ("!" ++ s) p .clause).1 = .ok f' →
        ∀ c : Call, f'.holds c p = ((p.get? c.personality).isSome && !f.holds c p) := by
  refine ⟨by simp [parse_syscall_eq_ok_iff, CallSpec.accepted_mark], fun f f' parsed parsed' c => ?_⟩
  have holds := holds_syscall_iff parsed c
  have holds' := holds_syscall_iff parsed' c
  cases table : p.get? c.personality with
  | none => simpa [table] using holds'
  | some t =>
    simp only [table, Option.some.injEq, exists_eq_left', selects_mark] at holds holds'
    rw [Bool.eq_iff_iff, holds', Option.isSome_some, Bool.true_and, Bool.not_eq_true', ← Bool.not_eq_true, holds]

end Filter

/-! ## Engines with one action -/

/-- The action that a rule comes to if it is the first. -/
def Rule.action (r : Rule) : Action := { (Action.new 0 r.kind).addAlternative r.filter with data := r.data }

theorem Rule.applies_action (r : Rule) (c : Call) (p : Personalities) : r.action.applies c p = r.filter.holds c p := by
  have alts : r.action.Alternatives := Action.alternatives_addAlternative (Action.alternatives_new 0 r.kind) r.filter
  have filters : r.action.filters = [r.filter] := rfl
  rw [Bool.eq_iff_iff, Action.applies_of_alternatives alts, filters]
  simp

namespace Builder

theorem enter_new (p : Personalities) (r : Rule) :
    (new p).enter r =
      { new p with actions := [r.action], defaults := Decisions.default.erase r.kind.decision } := by
  rw [enter_eq_onAction]
  obtain ⟨-, before, a, after, split, -⟩ | ⟨-, changed⟩ := (new p).onAction_cases r.kind _
  · exact absurd split.symm (List.append_ne_nil_of_right_ne_nil before (List.cons_ne_nil a after))
  · rw [changed]
    simp [new, Rule.action, Rule.followedBy, Action.addAlternative, Action.addFilter, Action.new]

theorem finish_enter_new (p : Personalities) (r : Rule) : ((new p).enter r).finish.1.actions = [r.action] := by
  have unlimited : ((new p).enter r).limited = (new p).enter r := by
    rw [enter_new]
    rfl
  rw [finish_eq, unlimited, enter_new]
  exact List.mergeSort_singleton _

section Trace

variable (p : Personalities) {r : Rule} (trace : r.kind = .trace) {σ : Type} (h : Handler σ)
  (history : List Engine.Turn) (s : σ) (call : Call)

include trace

theorem fired_enter_new_iff :
    Fired .trace ((((new p).enter r).finish.1.after history).dispatch (Engine.recording h) ([], s) call).2.state.1 ↔
      r.filter.holds call p = true := by
  have personalities : ((new p).enter r).personalities = p := (new p).onAction_personalities r.kind _
  have kind : r.action.kind = .trace := trace
  have considers (c : Call) : r.action.kind.considers c = true := by
    rw [kind]
    rfl
  rw [Engine.recorded_eq_log, finish_enter_new, personalities, Engine.walk, Call.applies_enter, r.applies_action, considers,
    Bool.true_and]
  split
  next yes => simp [Fired, kind, yes]
  next no => simp [Fired, Engine.walk, no]

theorem traced_enter_new_iff (passive : h.Passive) (untraced : call.decisions.has .trace = false) :
    ((((new p).enter r).finish.1.after history).dispatch
        (Engine.recording h) ([], s) call).2.call.decisions.has .trace = true ↔
      r.filter.holds call p = true := by
  have registered : Registered p [r] ((new p).enter r) := (registered_new p).enter r
  have kind : r.action.kind = .trace := trace
  rw [Engine.recorded_call, Engine.walk_passive passive, Call.traced_foldl_settle, finish_enter_new,
    registered.personalities, has_enter_iff registered, untraced]
  simp [r.applies_action, kind, trace, ActionKind.decision]

end Trace

/-- What another mark does to tracing. Both lists are accepted or neither, and a call of a known personality is traced
by exactly one of the two engines. Calls of other personalities are traced by neither. -/
theorem trace_negated (p : Personalities) (s : String) (args args' : Option String) :
    let plain := (new p).apply ⟨"trace", s, args⟩
    let negated := (new p).apply ⟨"trace", "!" ++ s, args'⟩
    (negated.result = .ok () ↔ plain.result = .ok ()) ∧
      (plain.result = .ok () → ∀ (σ : Type) (h : Handler σ) (history history' : List Engine.Turn) (st st' : σ)
        (call : Call),
        let run := ((plain.state.finish.1.after history).dispatch (Engine.recording h) ([], st) call).2
        let run' := ((negated.state.finish.1.after history').dispatch (Engine.recording h) ([], st') call).2
        ((p.get? call.personality).isSome = true → Xor (Fired .trace run.state.1) (Fired .trace run'.state.1)) ∧
        ((p.get? call.personality).isSome = false → ¬ Fired .trace run.state.1 ∧ ¬ Fired .trace run'.state.1) ∧
        (h.Passive → call.decisions.has .trace = false →
          (run.call.decisions.has .trace = true ↔ Fired .trace run.state.1) ∧
            (run'.call.decisions.has .trace = true ↔ Fired .trace run'.state.1))) := by
  intro plain negated
  obtain ⟨alike, opposite⟩ := Filter.parse_syscall_mark p s
  obtain ⟨ok, state⟩ := (new p).apply_plain ⟨"trace", s, args⟩ (k := .trace) rfl rfl
  obtain ⟨ok', state'⟩ := (new p).apply_plain ⟨"trace", "!" ++ s, args'⟩ (k := .trace) rfl rfl
  refine ⟨ok'.trans (alike.trans ok.symm), fun accepted σ h history history' st st' call => ?_⟩
  obtain ⟨f, (parsed : (Filter.parse .syscall s p .clause).1 = .ok f)⟩ := ok.mp accepted
  obtain ⟨f', parsed'⟩ := alike.mpr ⟨f, parsed⟩
  have turned := opposite f f' parsed parsed' call
  have fired {f : Filter} := fired_enter_new_iff p (r := ⟨.trace, f, none⟩) rfl h
  have traced {f : Filter} := traced_enter_new_iff p (r := ⟨.trace, f, none⟩) rfl h
  intro run run'
  simp only [run, run', plain, negated, state f parsed, state' f' parsed', fired]
  refine ⟨fun known => ?_, fun unknown => ?_, fun passive untraced => ?_⟩
  · rw [turned, known, Bool.true_and, Bool.not_eq_true', ← Bool.not_eq_true, xor_not_right]
  · have noTable : p.get? call.personality = none := by simpa using unknown
    rw [turned, unknown, Filter.holds_syscall_iff parsed, noTable]
    simp
  · exact ⟨traced _ _ _ passive untraced, traced _ _ _ passive untraced⟩

theorem trace_negated_beyond_tables :
    let p : Personalities := ⟨[⟨"demo", [⟨some "read", .empty⟩]⟩], List.cons_ne_nil _ _⟩
    let plain := (new p).apply ⟨"trace", "read", none⟩
    let negated := (new p).apply ⟨"trace", "!read", none⟩
    let call := Call.new 0 18446744073709551615
    let run := ((plain.state.finish.1.after []).dispatch (Engine.recording .none) ([], ()) call).2
    let run' := ((negated.state.finish.1.after []).dispatch (Engine.recording .none) ([], ()) call).2
    plain.result = .ok () ∧ (p.get? call.personality).isSome = true ∧ Handler.none.Passive ∧
      call.decisions.has .trace = false ∧ ¬ Fired .trace run.state.1 ∧ Fired .trace run'.state.1 ∧
      run'.call.decisions.has .trace = true := by
  -- A call beyond the numbers of every table, which only the list with the mark selects.
  intro p plain negated call run run'
  have accepted : plain.result = .ok () := by decide +kernel
  have passive : Handler.none.Passive := fun _ _ _ _ => rfl
  obtain ⟨-, meaning⟩ := trace_negated p "read" none none
  obtain ⟨one, -, flags⟩ := meaning accepted Unit .none [] [] () () call
  have untraced : call.decisions.has .trace = false := by decide +kernel
  obtain ⟨traced, traced'⟩ := flags passive untraced
  have silent : ¬ run.call.decisions.has .trace = true := by decide +kernel
  have unfired : ¬ Fired .trace run.state.1 := mt traced.mpr silent
  have fired : Fired .trace run'.state.1 := (one rfl).or.resolve_left unfired
  exact ⟨accepted, rfl, passive, untraced, unfired, fired, traced'.mpr fired⟩

end Builder

end SyscallFilter
