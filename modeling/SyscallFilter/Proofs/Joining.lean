import SyscallFilter.Proofs.Alignment
import SyscallFilter.Proofs.Interleaving
import SyscallFilter.Proofs.Selection

/-!
# Two lists in one clause

Two clauses of a kind without arguments can be joined: one clause with both lists and a comma between them does the
same, whatever else is configured before, between and after them.
-/

namespace SyscallFilter

/-! ## Joined lists -/

section Lists

open CallSpec

variable {p : Personalities} {list list' : String} {f f' : Filter}

theorem CallSpec.accepted_join {tables : List Table} (plain : Plain list) (plain' : Plain list')
    (accepted : Accepted .clause tables list) (accepted' : Accepted .clause tables list') :
    Accepted .clause tables (list ++ "," ++ list') := by
  rw [plain.accepted_iff] at accepted
  rw [plain'.accepted_iff] at accepted'
  rw [(plain.join list').accepted_iff, tokens_join, List.forall_mem_append]
  obtain ⟨token, mem, resolves⟩ := accepted.2
  exact ⟨⟨accepted.1, accepted'.1⟩, token, List.mem_append_left _ mem, resolves⟩

theorem NumberSpec.accepted_join {resolve : String → Option Nat} (plain : Plain list) (plain' : Plain list')
    (accepted : Accepted resolve .clause list) (accepted' : Accepted resolve .clause list') :
    Accepted resolve .clause (list ++ "," ++ list') := by
  rw [accepted_iff_of_plain plain] at accepted
  rw [accepted_iff_of_plain plain'] at accepted'
  rw [accepted_iff_of_plain (plain.join list'), tokens_join, List.forall_mem_append]
  exact ⟨List.append_ne_nil_of_left_ne_nil accepted.1 _, accepted.2, accepted'.2⟩

theorem CallSpec.Plain.selects_join {names one : String → Prop}
    (each : ∀ {list}, Plain list → (names list ↔ ∃ token ∈ tokens list, one token)) (plain : Plain list)
    (plain' : Plain list') :
    Selects .clause names (list ++ "," ++ list') ↔ Selects .clause names list ∨ Selects .clause names list' := by
  have joined := plain.join list'
  rw [joined.selects_iff, plain.selects_iff, plain'.selects_iff, each joined, each plain, each plain', tokens_join]
  simp only [List.mem_append, or_and_right, exists_or]

theorem CallSpec.selects_join (plain : Plain list) (plain' : Plain list') (t : Table) (n : Nat) :
    Selects .clause (Names .clause t n) (list ++ "," ++ list') ↔
      Selects .clause (Names .clause t n) list ∨ Selects .clause (Names .clause t n) list' :=
  plain.selects_join (fun plain => plain.names_iff t n) plain'

theorem NumberSpec.selects_join (plain : Plain list) (plain' : Plain list') (fd : Int) :
    Selects .clause (NamesDescriptor fd) (list ++ "," ++ list') ↔
      Selects .clause (NamesDescriptor fd) list ∨ Selects .clause (NamesDescriptor fd) list' :=
  plain.selects_join (fun plain => namesDescriptor_iff_of_plain plain fd) plain'

theorem Filter.parse_join {kind : FilterKind} (lists : kind ≠ .path) (plain : Plain list) (plain' : Plain list')
    (parsed : (parse kind list p .clause).1 = .ok f) (parsed' : (parse kind list' p .clause).1 = .ok f') :
    ∃ g, (parse kind (list ++ "," ++ list') p .clause).1 = .ok g ∧
      ∀ c, g.holds c p = (f.holds c p || f'.holds c p) := by
  cases kind with
  | path => exact absurd rfl lists
  | syscall =>
    have accepted := CallSpec.accepted_join plain plain' (parse_syscall_eq_ok_iff.mp parsed).1
      (parse_syscall_eq_ok_iff.mp parsed').1
    obtain ⟨g, joined⟩ : ∃ g, (parse .syscall (list ++ "," ++ list') p .clause).1 = .ok g :=
      ⟨_, parse_syscall_eq_ok_iff.mpr ⟨accepted, rfl⟩⟩
    refine ⟨g, joined, fun c => ?_⟩
    rw [Bool.eq_iff_iff, Bool.or_eq_true, holds_syscall_iff joined, holds_syscall_iff parsed, holds_syscall_iff parsed']
    simp only [CallSpec.selects_join plain plain', and_or_left, exists_or]
  | fd =>
    have accepted := NumberSpec.accepted_join plain plain' (parse_fd_eq_ok_iff.mp parsed).1
      (parse_fd_eq_ok_iff.mp parsed').1
    obtain ⟨g, joined⟩ : ∃ g, (parse .fd (list ++ "," ++ list') p .clause).1 = .ok g :=
      ⟨_, parse_fd_eq_ok_iff.mpr ⟨accepted, rfl⟩⟩
    refine ⟨g, joined, fun c => ?_⟩
    rw [Bool.eq_iff_iff, Bool.or_eq_true, holds_fd_iff joined, holds_fd_iff parsed, holds_fd_iff parsed']
    simp only [NumberSpec.selects_join plain plain', and_or_left, exists_or]

end Lists

/-! ## Joined clauses -/

theorem ActionKind.filterKind_ne_path (k : ActionKind) : k.filterKind ≠ .path := by
  cases k <;> decide

theorem Step.rule?_of_plain {c : Clause} {k : ActionKind} (kind : c.kind? = some k) (plain : k.takesArgs = false)
    {p : Personalities} {f : Filter} (parsed : (Filter.parse k.filterKind c.main p .clause).1 = .ok f) :
    (Step.clause c).rule? p = some ⟨k, f, none⟩ := by
  rw [rule?_clause, kind, Option.bind_some, c.rule_of_plain plain, parsed]
  rfl

namespace Builder

/-- A clause that repeats a kind without arguments can be joined to an earlier one of the kind, unless one of the lists
is a word or has a mark. The joined clause is accepted everywhere, and whatever else is configured, and whatever the
engines were used for before, the same actions apply in the same order and the same is decided. -/
theorem takeAll_joined (p : Personalities) {k : ActionKind} (plain : k.takesArgs = false) {a a' joined : Clause}
    (kind : a.kind? = some k) (kind' : a'.kind? = some k) (kindJoined : joined.kind? = some k)
    (main : joined.main = a.main ++ "," ++ a'.main) (list : CallSpec.Plain a.main) (list' : CallSpec.Plain a'.main)
    (accepted : ((new p).apply a).result = .ok ()) (accepted' : ((new p).apply a').result = .ok ()) :
    (∀ before, (((new p).takeAll before).apply joined).result = .ok ()) ∧
      ∀ (before between after : List Step) (σ τ : Type) (h : Handler σ) (h' : Handler τ), h.Passive → h'.Passive →
        ∀ (history history' : List Engine.Turn) (s : σ) (s' : τ) (call : Call),
          let b := (new p).takeAll (before ++ .clause a :: between ++ .clause a' :: after)
          let b' := (new p).takeAll (before ++ .clause joined :: between ++ after)
          let run := ((b.finish.1.after history).dispatch (Engine.recording h) ([], s) call).2
          let run' := ((b'.finish.1.after history').dispatch (Engine.recording h') ([], s') call).2
          run'.state.1.map Invocation.report = run.state.1.map Invocation.report ∧
            run'.call.decisions = run.call.decisions := by
  have name {c : Clause} (kind : c.kind? = some k) := (c.kind?_eq_some_iff k).mp kind
  obtain ⟨f, (parsed : (Filter.parse k.filterKind a.main p .clause).1 = .ok f)⟩ :=
    ((new p).apply_plain a plain (name kind)).1.mp accepted
  obtain ⟨f', (parsed' : (Filter.parse k.filterKind a'.main p .clause).1 = .ok f')⟩ :=
    ((new p).apply_plain a' plain (name kind')).1.mp accepted'
  obtain ⟨g, parsedJoined, wider⟩ := Filter.parse_join k.filterKind_ne_path list list' parsed parsed'
  rw [← main] at parsedJoined
  refine ⟨fun before => ?_, ?_⟩
  · refine (apply_plain _ joined plain (name kindJoined)).1.mpr ⟨g, ?_⟩
    rw [takeAll_personalities]
    exact parsedJoined
  intro before between after σ τ h h' passive passive' history history' s s' call b b'
  let start := (new p).takeAll before
  obtain ⟨registered, -⟩ := registered_takeAll p before
  have taken {b : Builder} (same : b.personalities = p) {c : Clause} {f : Filter} (kind : c.kind? = some k)
      (parsed : (Filter.parse k.filterKind c.main p .clause).1 = .ok f) :
      b.take (.clause c) = b.enter ⟨k, f, none⟩ :=
    take_of_rule (same ▸ Step.rule?_of_plain kind plain parsed)
  have level : Ahead p k (fun _ => false) b b' := by
    have split : b = (((start.take (.clause a)).takeAll between).take (.clause a')).takeAll after := by
      simp only [b, takeAll_append]
      rfl
    have split' : b' = ((start.take (.clause joined)).takeAll between).takeAll after := by
      simp only [b', takeAll_append]
      rfl
    have same : ((start.enter ⟨k, f, none⟩).takeAll between).personalities = p :=
      (takeAll_personalities _ between).trans (registered.enter ⟨k, f, none⟩).personalities
    rw [split, split', taken registered.personalities kind parsed, taken registered.personalities kindJoined parsedJoined,
      taken same kind' parsed']
    exact level_of_wider registered plain wider between after
  exact level.dispatch history history' passive passive' s s' call

theorem takeAll_joined_reads :
    let p : Personalities := ⟨[⟨"demo", [⟨some "dup2", .empty⟩]⟩], List.cons_ne_nil _ _⟩
    let a : Clause := ⟨"read", "3", none⟩
    let a' : Clause := ⟨"r", "9,3", some "unused"⟩
    let joined : Clause := ⟨"reads", "3,9,3", none⟩
    let before : List Step := [.path "/tmp"]
    let between : List Step := [.clause (.split "fault=dup2")]
    let after : List Step := [.path "/tmp/"]
    let b := (new p).takeAll (before ++ .clause a :: between ++ .clause a' :: after)
    let b' := (new p).takeAll (before ++ .clause joined :: between ++ after)
    let call : Call := ⟨1, 0, 0, #v[4, 0x100000009, 0, 0, 0, 0], ["//tmp"], .empty⟩
    let run := ((b.finish.1.after []).dispatch (Engine.recording .none) ([], ()) call).2
    let run' := ((b'.finish.1.after []).dispatch (Engine.recording .none) ([], ()) call).2
    CallSpec.Plain a.main ∧ CallSpec.Plain a'.main ∧ ((new p).apply a).result = .ok () ∧
      ((new p).apply a').result = .ok () ∧ Handler.none.Passive ∧ ((new p).apply joined).result = .ok () ∧
      run'.state.1.map Invocation.report = run.state.1.map Invocation.report ∧
      run'.call.decisions = run.call.decisions := by
  intro p a a' joined before between after b b' call run run'
  have list : CallSpec.Plain a.main := ⟨by decide, by decide, by decide⟩
  have list' : CallSpec.Plain a'.main := ⟨by decide, by decide, by decide⟩
  have accepted : ((new p).apply a).result = .ok () := by decide +kernel
  have accepted' : ((new p).apply a').result = .ok () := by decide +kernel
  have passive : Handler.none.Passive := fun _ _ _ _ => rfl
  have kind : a.kind? = some .read := by decide
  have kind' : a'.kind? = some .read := by decide
  have kindJoined : joined.kind? = some .read := by decide
  have main : joined.main = a.main ++ "," ++ a'.main := by decide
  obtain ⟨ok, same⟩ := takeAll_joined p rfl kind kind' kindJoined main list list' accepted accepted'
  have decided := same before between after Unit Unit .none .none passive passive [] [] () () call
  simp only [b, b', run, run']
  exact ⟨list, list', accepted, accepted', passive, ok [], decided⟩

end Builder

end SyscallFilter
