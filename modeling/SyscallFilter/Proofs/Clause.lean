import SyscallFilter.Clause

/-!
# What a clause does to a builder

A clause for a kind of action comes to a rule, which does not depend on what was configured before. The builder
enters the rule, or stays as it is where there is none.
-/

namespace SyscallFilter

/-- What an accepted clause asks of an action of its kind. -/
structure Rule where
  kind : ActionKind
  filter : Filter
  /-- What is injected, for kinds with arguments. -/
  data : Option Injection
  deriving DecidableEq

/-- The kind of filter that clauses for a kind of action describe. -/
def ActionKind.filterKind : ActionKind → FilterKind
  | .read | .write => .fd
  | .trace | .inject | .fault | .raw | .brief | .verbose => .syscall

/-- The rule of a clause that is read as one for `k`, or what is wrong with it. -/
def Clause.rule (c : Clause) (k : ActionKind) (p : Personalities) : Except ClauseError Rule :=
  match (Filter.parse k.filterKind c.main p .clause).1 with
  | .error e => .error e
  | .ok f =>
    if k.takesArgs then
      match Injection.parse? c.args (k = .fault) .clause with
      | none => .error (.badArguments k (c.args.getD ""))
      | some i => .ok ⟨k, f, some i⟩
    else .ok ⟨k, f, none⟩

theorem Clause.rule_of_plain (c : Clause) {k : ActionKind} (plain : k.takesArgs = false) (p : Personalities) :
    c.rule k p = (Filter.parse k.filterKind c.main p .clause).1.map fun f => ⟨k, f, none⟩ := by
  unfold rule
  cases (Filter.parse k.filterKind c.main p .clause).1 <;> simp [plain, Except.map]

namespace Builder

/-- Adds the filter of a rule as one more alternative to the action of its kind. -/
def enter (b : Builder) (r : Rule) : Builder :=
  let found := b.findOrAdd r.kind
  found.2.1.modifyAction found.1 fun a => { a.addAlternative r.filter with data := r.data.or a.data }

/-- What became of a clause with this rule. -/
def Entered (b : Builder) (rule : Except ClauseError Rule) (done : Attempt Builder Unit) : Prop :=
  match rule with
  | .ok r => done.result = .ok () ∧ done.state = b.enter r
  | .error e => done.result = .error e ∧ done.state = b

theorem applyFiltered_entered (b : Builder) (c : Clause) (k : ActionKind) (plain : k.takesArgs = false) :
    b.Entered (c.rule k b.personalities) (b.applyFiltered k k.filterKind c.main c.args) := by
  unfold applyFiltered Clause.rule
  rcases Filter.parse k.filterKind c.main b.personalities .clause with ⟨_ | f, events⟩
  · exact ⟨rfl, rfl⟩
  · simp only [plain, Bool.false_eq_true, if_false]
    exact ⟨rfl, rfl⟩

theorem applyInjection_entered (b : Builder) (c : Clause) (k : ActionKind) (args : k.takesArgs = true)
    (calls : k.filterKind = .syscall) :
    b.Entered (c.rule k b.personalities) (b.applyInjection k c.main c.args) := by
  unfold applyInjection Clause.rule
  rw [calls]
  rcases Filter.parse .syscall c.main b.personalities .clause with ⟨_ | f, events⟩
  · exact ⟨rfl, rfl⟩
  · simp only [args, if_true]
    rcases Injection.parse? c.args (k = .fault) .clause with _ | i
    · exact ⟨rfl, rfl⟩
    · refine ⟨rfl, ?_⟩
      unfold enter findOrAdd
      simp only [args, if_true]
      rfl

/-! ## The three things that a name can stand for -/

theorem apply_action (b : Builder) (c : Clause) {k : ActionKind}
    (name : Qualifier.ofName? c.name = some (.action k)) :
    b.Entered (c.rule k b.personalities) (b.apply c) := by
  unfold apply
  rw [name]
  cases k with
  | inject => exact b.applyInjection_entered c .inject rfl rfl
  | fault => exact b.applyInjection_entered c .fault rfl rfl
  | read => exact b.applyFiltered_entered c .read rfl
  | write => exact b.applyFiltered_entered c .write rfl
  | trace => exact b.applyFiltered_entered c .trace rfl
  | raw => exact b.applyFiltered_entered c .raw rfl
  | brief => exact b.applyFiltered_entered c .brief rfl
  | verbose => exact b.applyFiltered_entered c .verbose rfl

theorem apply_plain (b : Builder) (c : Clause) {k : ActionKind} (plain : k.takesArgs = false)
    (name : Qualifier.ofName? c.name = some (.action k)) :
    ((b.apply c).result = .ok () ↔ ∃ f, (Filter.parse k.filterKind c.main b.personalities .clause).1 = .ok f) ∧
      ∀ f, (Filter.parse k.filterKind c.main b.personalities .clause).1 = .ok f →
        (b.apply c).state = b.enter ⟨k, f, none⟩ := by
  have entered := b.apply_action c name
  rw [c.rule_of_plain plain] at entered
  cases parsed : (Filter.parse k.filterKind c.main b.personalities .clause).1 with
  | error e =>
    rw [parsed] at entered
    simp [entered.1]
  | ok f =>
    rw [parsed] at entered
    refine ⟨by simp [entered.1], ?_⟩
    rintro _ ⟨⟩
    exact entered.2

/-- The signals that a clause about them leaves. -/
def signalsAfter (b : Builder) (main : String) : Except ClauseError Unit × NumberSet :=
  NumberSpec.addTo main .signal Signal.parse? .clause b.signals.clear

theorem apply_signals (b : Builder) (c : Clause) (name : Qualifier.ofName? c.name = some .signals) :
    (b.apply c).result = (b.signalsAfter c.main).1 ∧
      (b.apply c).state = { b with signals := (b.signalsAfter c.main).2 } := by
  unfold apply applySignals signalsAfter
  rw [name]
  rcases NumberSpec.addTo c.main .signal Signal.parse? .clause b.signals.clear with ⟨_ | _, signals⟩
  · exact ⟨rfl, rfl⟩
  · exact ⟨rfl, rfl⟩

theorem apply_unknown (b : Builder) (c : Clause) (name : Qualifier.ofName? c.name = none) :
    (b.apply c).result = .error (.unknownAction c.name) ∧ (b.apply c).state = b := by
  unfold apply
  rw [name]
  exact ⟨rfl, rfl⟩

end Builder

end SyscallFilter
