import SyscallFilter.Proofs.Decisions

/-!
# Narrower and wider selections of paths

Paths only limit what is traced. More of them limit it less, and everything else that is decided about a call follows
what is traced.
-/

namespace SyscallFilter

namespace Builder

section Within

variable {p : Personalities} {rules rules' : List Rule} {b b' : Builder} {σ τ : Type} {h : Handler σ}
  {h' : Handler τ}

theorem traced_of_within (registered : Registered p rules b) (registered' : Registered p rules' b')
    (same : ∀ r, r ∈ rules' ↔ r ∈ rules) (within : b.paths.Within b'.paths) (passive : h.Passive)
    (passive' : h'.Passive) (s : σ) (s' : τ) (call : Call)
    (traced : (b.finish.1.dispatch h s call).2.call.decisions.has .trace = true) :
    (b'.finish.1.dispatch h' s' call).2.call.decisions.has .trace = true := by
  rw [traced_iff registered passive] at traced
  rw [traced_iff registered' passive']
  simp only [same]
  rcases traced with given | ⟨unmentioned, none⟩ | ⟨chosen, allowed⟩
  · exact .inl given
  · exact .inr (.inl ⟨unmentioned, within.isEmpty none⟩)
  · exact .inr (.inr ⟨chosen, within.allows call.paths allowed⟩)

theorem decisions_le_of_within (registered : Registered p rules b) (registered' : Registered p rules' b')
    (same : ∀ r, r ∈ rules' ↔ r ∈ rules) (within : b.paths.Within b'.paths) (passive : h.Passive)
    (passive' : h'.Passive) (s : σ) (s' : τ) (call : Call) :
    (b.finish.1.dispatch h s call).2.call.decisions ≤ (b'.finish.1.dispatch h' s' call).2.call.decisions := by
  have traced := traced_of_within registered registered' same within passive passive' s s' call
  -- What shows a call waits for nothing but the call to be traced.
  have shown (k : ActionKind) (shown : k.priority = 2)
      (decided : (b.finish.1.dispatch h s call).2.call.decisions.has k.decision = true) :
      (b'.finish.1.dispatch h' s' call).2.call.decisions.has k.decision = true := by
    rw [shown_iff registered passive s call shown] at decided
    rw [shown_iff registered' passive' s' call shown]
    simp only [same]
    exact decided.imp_right (Or.imp_right (And.imp_left traced))
  have each (d : Decision) (decided : (b.finish.1.dispatch h s call).2.call.decisions.has d = true) :
      (b'.finish.1.dispatch h' s' call).2.call.decisions.has d = true := by
    cases d with
    | trace => exact traced decided
    | inject =>
      rw [injected_iff registered passive] at decided
      rw [injected_iff registered' passive']
      simp only [same]
      exact decided
    | brief => exact shown .brief rfl decided
    | verbose => exact shown .verbose rfl decided
    | raw => exact shown .raw rfl decided
    | read => exact shown .read rfl decided
    | write => exact shown .write rfl decided
  intro i decided
  by_cases known : ∃ d : Decision, Flag.bit d = i
  · obtain ⟨d, rfl⟩ := known
    exact each d decided
  · -- Bits without a name are those that the call came with.
    have other (d : Decision) : Flag.bit d ≠ i := fun same => known ⟨d, same⟩
    rw [testBit_finish_of_other registered passive s call other] at decided
    rwa [testBit_finish_of_other registered' passive' s' call other]

end Within

/-- With some paths selected no more is decided about a call than with none, and no more than with these paths and
others. Each side has the same clauses, in any order, and refused ones may be among them. The call may come with
decisions on it, and what was dispatched before has no part in it. -/
theorem finish_widened (p : Personalities) {steps steps' : List Step}
    (clauses : ∀ c, .clause c ∈ steps' ↔ .clause c ∈ steps) (limited : pathsOf steps ≠ [])
    (wider : pathsOf steps' = [] ∨ ∀ q ∈ pathsOf steps, ∃ q' ∈ pathsOf steps', Path.same q' q = true) {σ τ : Type}
    {h : Handler σ} {h' : Handler τ} (passive : h.Passive) (passive' : h'.Passive)
    (history history' : List Engine.Turn) (s : σ) (s' : τ) (call : Call) :
    let e := ((Builder.new p).takeAll steps).finish.1
    let e' := ((Builder.new p).takeAll steps').finish.1
    ((e.after history).dispatch h s call).2.call.decisions ≤
      ((e'.after history').dispatch h' s' call).2.call.decisions := by
  intro e e'
  obtain ⟨registered, paths⟩ := registered_takeAll p steps
  obtain ⟨registered', paths'⟩ := registered_takeAll p steps'
  have same (r : Rule) : r ∈ rulesOf p steps' ↔ r ∈ rulesOf p steps := by
    simp only [mem_rulesOf_iff, clauses]
  have within : ((Builder.new p).takeAll steps).paths.Within ((Builder.new p).takeAll steps').paths := by
    rw [paths, paths']
    exact PathSet.within_foldl_select limited wider
  rw [Engine.call_after, Engine.call_after]
  exact decisions_le_of_within registered registered' same within passive passive' s s' call

theorem finish_widened_spelled_again :
    let p : Personalities := ⟨[⟨"demo", [⟨some "read", .empty⟩, ⟨some "open", .empty⟩]⟩], List.cons_ne_nil _ _⟩
    let clauses : List Step := [.clause (.split "raw=open"), .clause (.split "trace=nope"), .clause (.split "fault=open")]
    let built (paths : List String) := (Builder.new p).takeAll (clauses ++ paths.map .path)
    let decided (paths : List String) (call : Call) :=
      (((built paths).finish.1.after []).dispatch .none () call).2.call.decisions
    let call : Call := { Call.new 0 1 with paths := ["//tmp", "/var"] }
    decided ["/etc"] call ≤ decided [] call ∧ decided ["/etc"] call ≤ decided ["/tmp", "/etc/"] call ∧
      (decided ["/etc"] call).has .trace = false ∧ (decided ["/tmp", "/etc/"] call).has .trace = true := by
  intro p clauses built decided call
  have passive : Handler.none.Passive := fun _ _ _ _ => rfl
  have same (paths : List String) (c : Clause) :
      .clause c ∈ clauses ++ paths.map Step.path ↔ .clause c ∈ clauses ++ ["/etc"].map Step.path := by
    simp
  have limited : pathsOf (clauses ++ ["/etc"].map .path) ≠ [] := by decide
  have wider : ∀ q ∈ pathsOf (clauses ++ ["/etc"].map .path),
      ∃ q' ∈ pathsOf (clauses ++ ["/tmp", "/etc/"].map .path), Path.same q' q = true := by decide +kernel
  have widened (paths : List String) (wider : pathsOf (clauses ++ paths.map .path) = [] ∨
      ∀ q ∈ pathsOf (clauses ++ ["/etc"].map .path), ∃ q' ∈ pathsOf (clauses ++ paths.map .path),
        Path.same q' q = true) : decided ["/etc"] call ≤ decided paths call := by
    -- The two runs are compared as they stand, and need not be computed.
    clear_value p clauses call
    exact finish_widened p (same paths) limited wider passive passive [] [] () () call
  have unlimited : pathsOf (clauses ++ [].map .path) = [] := by decide
  refine ⟨widened [] (.inl unlimited), widened ["/tmp", "/etc/"] (.inr wider), ?_, ?_⟩
  · simp only [decided]
    rw [← Bool.not_eq_true, Engine.call_after, traced_iff (registered_takeAll p _).1 passive]
    decide +kernel
  · simp only [decided]
    rw [Engine.call_after, traced_iff (registered_takeAll p _).1 passive]
    decide +kernel

end Builder

end SyscallFilter
