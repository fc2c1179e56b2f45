import SyscallFilter.Proofs.Alignment
import SyscallFilter.Proofs.CallSpec
import SyscallFilter.Proofs.Interleaving

/-!
# Tracing everything, asked for or not

Where paths are selected and no clause speaks of tracing, finishing adds an action that traces every call within the
paths. It is the one that `trace=all` would have added.
-/

namespace SyscallFilter

/-- The rule that traces every call. -/
def Rule.traceAll (p : Personalities) : Rule := ⟨.trace, .allCalls p, none⟩

theorem Filter.parse_all (p : Personalities) : (parse .syscall "all" p .clause).1 = .ok (allCalls p) := by
  have list : CallSpec.unmarked .clause "all" = "all" := by decide
  have turns : CallSpec.turns .clause "all" = 0 := by decide
  unfold parse
  simp only [CallSpec.addTo_of_all list, turns, List.map_map]
  rfl

namespace Clause

theorem kind?_traceAll : (split "trace=all").kind? = some .trace := by decide +kernel

theorem rule_traceAll (p : Personalities) : (split "trace=all").rule .trace p = .ok (.traceAll p) := by
  have main : (split "trace=all").main = "all" := by decide +kernel
  have read : (Filter.parse ActionKind.trace.filterKind "all" p .clause).1 = .ok (.allCalls p) := Filter.parse_all p
  rw [rule_of_plain _ rfl, main, read]
  rfl

theorem verdict_of_rule {c : Clause} {p : Personalities} {k : ActionKind} {r : Rule} (kind : c.kind? = some k)
    (rule : c.rule k p = .ok r) : c.verdict p = .ok () := by
  unfold verdict
  rw [(c.kind?_eq_some_iff k).mp kind]
  show (c.rule k p).map _ = _
  rw [rule]
  rfl

end Clause

namespace Builder

variable {p : Personalities} {rules : List Rule} {b : Builder}

/-! ## The new action -/

theorem enter_traceAll (untraced : ∀ a ∈ b.actions, a.kind ≠ .trace) :
    b.enter (.traceAll p) = { b with
      actions := b.actions ++ [tracesAll b.actions.length p], defaults := b.defaults.erase .trace } :=
  onAction_of_fresh (fun ⟨_, a, mem, kind⟩ => untraced a mem kind) _

theorem limited_enter_traceAll (registered : Registered p rules b) (untraced : ∀ a ∈ b.actions, a.kind ≠ .trace)
    (some : b.paths.isEmpty = false) : (b.enter (.traceAll p)).limited = b.limited := by
  have fresh : ¬ b.Shares .trace := fun ⟨_, a, mem, kind⟩ => untraced a mem kind
  have shared : (b.enter (.traceAll p)).Shares .trace := shares_enter registered rfl (.allCalls p)
  have kept : (b.enter (.traceAll p)).paths = b.paths := b.enter_paths _
  unfold limited
  rw [kept, if_neg (Bool.eq_false_iff.mp some), if_neg (Bool.eq_false_iff.mp some), limitToPaths_eq, limitToPaths_eq,
    onAction_of_shared (registered.enter _) shared, onAction_of_fresh fresh, enter_traceAll untraced,
    registered.personalities]
  -- The limits only go to the action that is new.
  simp only [List.map_append, map_eq_self_of_ne untraced]
  rfl

/-! ## Configurations -/

theorem untraced_of_refused {steps : List Step}
    (refused : ∀ before c after, steps = before ++ .clause c :: after → c.kind? = some .trace →
      (((new p).takeAll before).apply c).result ≠ .ok ()) :
    ∀ a ∈ ((new p).takeAll steps).actions, a.kind ≠ .trace := by
  intro a mem kind
  obtain ⟨registered, -⟩ := registered_takeAll p steps
  obtain ⟨r, rule, own⟩ := (registered.exists_action_iff .trace).mp ⟨a, mem, kind⟩
  obtain ⟨c, given, about, read⟩ := mem_rulesOf_iff.mp rule
  obtain ⟨before, after, split⟩ := List.append_of_mem given
  rw [own] at about read
  refine refused before c after split about ?_
  rw [apply_result, takeAll_personalities]
  exact Clause.verdict_of_rule about read

theorem take_traceAll (known : b.personalities = p) :
    b.take (.clause (.split "trace=all")) = b.enter (.traceAll p) := by
  apply take_of_rule
  rw [known, Step.rule?_clause, Clause.kind?_traceAll, Option.bind_some, Clause.rule_traceAll]
  rfl

theorem takeAll_with_traceAll {steps steps' : List Step}
    (clauses : clausesOf steps' = clausesOf steps ++ [.split "trace=all"]) (paths : pathsOf steps' = pathsOf steps) :
    (new p).takeAll steps' = ((new p).takeAll steps).enter (.traceAll p) := by
  have known : ((new p).takeAll ((clausesOf steps).map .clause)).personalities = p := takeAll_personalities _ _
  have last : (new p).takeAll ((clausesOf steps').map .clause) =
      ((new p).takeAll ((clausesOf steps).map .clause)).enter (.traceAll p) := by
    rw [clauses, List.map_append, takeAll_append]
    exact take_traceAll known
  rw [takeAll_eq _ steps', takeAll_eq _ steps, last, paths, enter_withPaths]

/-- If some paths are selected and no clause about tracing is accepted, then `trace=all` as the last of the clauses is
accepted and makes no difference: the engine is the same with it and without it. -/
theorem finish_with_traceAll (p : Personalities) {steps steps' : List Step}
    (refused : ∀ before c after, steps = before ++ .clause c :: after → c.kind? = some .trace →
      (((new p).takeAll before).apply c).result ≠ .ok ())
    (limited : pathsOf steps ≠ []) (clauses : clausesOf steps' = clausesOf steps ++ [.split "trace=all"])
    (paths : pathsOf steps' = pathsOf steps) :
    (new p).results steps' = (new p).results steps ++ [.ok ()] ∧
      ((new p).takeAll steps').finish.1 = ((new p).takeAll steps).finish.1 := by
  obtain ⟨registered, selected⟩ := registered_takeAll p steps
  have some : ((new p).takeAll steps).paths.isEmpty = false := by
    rw [selected]
    exact PathSet.isEmpty_of_selected limited .empty
  constructor
  · have accepted : (Clause.split "trace=all").verdict p = .ok () :=
      Clause.verdict_of_rule Clause.kind?_traceAll (Clause.rule_traceAll p)
    rw [results_eq, results_eq, clauses, List.map_append, List.map_singleton, ← accepted]
    rfl
  · rw [takeAll_with_traceAll clauses paths, finish_eq, finish_eq,
      limited_enter_traceAll registered (untraced_of_refused refused) some]

theorem finish_with_traceAll_between_paths :
    let p : Personalities := ⟨[⟨"demo", [⟨some "read", .empty⟩, ⟨some "open", .empty⟩]⟩], List.cons_ne_nil _ _⟩
    let steps : List Step := [.clause (.split "raw=open"), .path "/tmp", .clause (.split "trace=nope"),
      .clause (.split "fault=open"), .path "/etc"]
    let steps' : List Step := [.path "/tmp", .clause (.split "raw=open"), .clause (.split "trace=nope"),
      .clause (.split "fault=open"), .clause (.split "trace=all"), .path "/etc"]
    (new p).results steps' = (new p).results steps ++ [.ok ()] ∧
      ((new p).takeAll steps').finish.1 = ((new p).takeAll steps).finish.1 := by
  -- Refused clauses about tracing, one that takes arguments, and paths between clauses.
  intro p steps steps'
  have refused : ∀ c, .clause c ∈ steps → c.kind? = some .trace → c.verdict p ≠ .ok () := by
    simp only [steps, List.mem_cons, List.not_mem_nil, Step.clause.injEq, reduceCtorEq, or_false, false_or]
    rintro c (rfl | rfl | rfl)
    · exact fun trace => absurd trace (by decide +kernel)
    · exact fun _ => by decide +kernel
    · exact fun trace => absurd trace (by decide +kernel)
  refine finish_with_traceAll p (fun before c after split trace => ?_) (by decide) rfl rfl
  rw [apply_result, takeAll_personalities]
  exact refused c (split ▸ List.mem_append_right before List.mem_cons_self) trace

end Builder

end SyscallFilter
