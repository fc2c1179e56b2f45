import Mathlib.Data.List.Forall2
import SyscallFilter.Proofs.Registry

/-!
# What finishing does to the registry

Paths limit the action that traces, or a new one that would trace every call. Then the actions are put in the order
in which they run.
-/

namespace SyscallFilter

theorem forall₂_mergeSort {α : Type} {R : α → α → Prop} {le : α → α → Bool}
    (order : ∀ a a' b b', R a a' → R b b' → le a b = le a' b') {as as' : List α} (related : List.Forall₂ R as as') :
    List.Forall₂ R (as.mergeSort le) (as'.mergeSort le) := by
  obtain ⟨pairs, rfl, rfl, each⟩ : ∃ pairs : List (α × α), as = pairs.map (·.1) ∧ as' = pairs.map (·.2) ∧
      ∀ x ∈ pairs, R x.1 x.2 := by
    induction related with
    | nil => exact ⟨[], rfl, rfl, nofun⟩
    | @cons a a' _ _ first _ ih =>
      obtain ⟨pairs, rfl, rfl, each⟩ := ih
      exact ⟨(a, a') :: pairs, rfl, rfl, List.forall_mem_cons.mpr ⟨first, each⟩⟩
  rw [← List.map_mergeSort (r := fun x y => le x.1 y.1) fun _ _ _ _ => rfl,
    ← List.map_mergeSort (r := fun x y => le x.1 y.1) fun x mem y mem' =>
      order _ _ _ _ (each x mem) (each y mem'),
    List.forall₂_map_left_iff, List.forall₂_map_right_iff]
  exact List.forall₂_same.mpr fun x mem => each x (List.mem_mergeSort.mp mem)

namespace Builder

/-! ## Limits -/

theorem limitToPaths_eq (b : Builder) :
    b.limitToPaths.1 = b.onAction .trace fun a =>
      (if a.filters.isEmpty then a.addAlternative (.allCalls b.personalities) else a).limited (.path b.paths) := by
  unfold limitToPaths onAction findOrAdd
  cases b.actions.findIdx? (·.kind = .trace) <;> rfl

/-- The builder whose actions an engine gets. -/
def limited (b : Builder) : Builder := if b.paths.isEmpty then b else b.limitToPaths.1

section Limited

variable {p : Personalities} {rules : List Rule} {b : Builder}

/-- The action that traces every call of a known personality. -/
def tracesAll (id : Nat) (p : Personalities) : Action := (Action.new id .trace).addAlternative (.allCalls p)

theorem alternatives_tracesAll (id : Nat) (p : Personalities) : (tracesAll id p).Alternatives :=
  Action.alternatives_addAlternative (Action.alternatives_new id .trace) (.allCalls p)

theorem applies_tracesAll (id : Nat) (p : Personalities) (c : Call) :
    (tracesAll id p).applies c p = (p.get? c.personality).isSome := by
  have filters : (tracesAll id p).filters = [.allCalls p] := rfl
  rw [Bool.eq_iff_iff, Action.applies_of_alternatives (alternatives_tracesAll id p), filters, ← Filter.holds_allCalls]
  simp only [List.mem_singleton, exists_eq_left]

theorem limitToPaths_cases (registered : Registered p rules b) :
    (∃ before a after, b.actions = before ++ a :: after ∧ a.kind = .trace ∧
      b.limitToPaths.1 = { b with actions := before ++ a.limited (.path b.paths) :: after }) ∨
    ((∀ a ∈ b.actions, a.kind ≠ .trace) ∧
      b.limitToPaths.1 = { b with
        actions := b.actions ++ [(tracesAll b.actions.length p).limited (.path b.paths)]
        defaults := b.defaults.erase .trace }) := by
  rw [limitToPaths_eq]
  obtain ⟨-, before, a, after, split, kind, changed⟩ | ⟨new, changed⟩ := b.onAction_cases .trace _
  · refine .inl ⟨before, a, after, split, kind, ?_⟩
    have nonempty : a.filters.isEmpty = false :=
      List.isEmpty_eq_false_iff.mpr (registered.nonempty a (by simp [split]))
    rw [changed, nonempty]
    rfl
  · refine .inr ⟨new.resolve_left Bool.false_ne_true, ?_⟩
    rw [changed, registered.personalities]
    rfl

theorem mem_filters_limited (registered : Registered p rules b) {a : Action} (mem : a ∈ b.limited.actions) {f : Filter}
    (filter : f ∈ a.filters) : (∃ r ∈ rules, r.filter = f) ∨ f = .allCalls p ∨ f = .path b.paths := by
  have entered {a : Action} (mem : a ∈ b.actions) (filter : f ∈ a.filters) : ∃ r ∈ rules, r.filter = f := by
    obtain ⟨r, rule, -, same⟩ := (registered.mem_filters_iff a.kind f).mp ⟨a, mem, rfl, filter⟩
    exact ⟨r, rule, same⟩
  unfold limited at mem
  split at mem
  · exact .inl (entered mem filter)
  obtain ⟨before, old, after, split, -, changed⟩ | ⟨-, changed⟩ := limitToPaths_cases registered <;> rw [changed] at mem
  · have known : old ∈ b.actions := by simp [split]
    simp only [List.mem_append, List.mem_cons] at mem
    rcases mem with early | rfl | late
    · exact .inl (entered (split ▸ List.mem_append_left _ early) filter)
    · rcases List.mem_append.mp filter with own | limit
      · exact .inl (entered known own)
      · exact .inr (.inr (List.mem_singleton.mp limit))
    · exact .inl (entered (split ▸ List.mem_append_right _ (List.mem_cons_of_mem old late)) filter)
  · rcases List.mem_append.mp mem with known | new
    · exact .inl (entered known filter)
    · rw [List.mem_singleton.mp new] at filter
      rcases List.mem_append.mp filter with own | limit
      · exact .inr (.inl (List.mem_singleton.mp own))
      · exact .inr (.inr (List.mem_singleton.mp limit))

theorem limited_personalities (b : Builder) : b.limited.personalities = b.personalities := by
  unfold limited
  split
  · rfl
  · rw [limitToPaths_eq, onAction_personalities]

theorem limited_signals (b : Builder) : b.limited.signals = b.signals := by
  unfold limited
  split
  · rfl
  · rw [limitToPaths_eq, onAction_signals]

theorem applies_limited_iff (registered : Registered p rules b) {k : ActionKind} (other : k ≠ .trace) (c : Call) :
    (∃ a ∈ b.limited.actions, a.kind = k ∧ a.applies c p = true) ↔
      ∃ r ∈ rules, r.kind = k ∧ r.filter.holds c p = true := by
  rw [← registered.exists_applies_iff]
  unfold limited
  split
  · rfl
  obtain ⟨before, a, after, split, kind, changed⟩ | ⟨-, changed⟩ :=
    limitToPaths_cases registered <;> rw [changed]
  · have old : a.kind ≠ k := kind ▸ other.symm
    have new : (a.limited (.path b.paths)).kind ≠ k := old
    rw [split]
    simp only [List.mem_append, List.mem_cons, or_and_right, exists_or, exists_eq_left, old, new, false_and]
  · have new : ((tracesAll b.actions.length p).limited (.path b.paths)).kind ≠ k := other.symm
    simp only [List.mem_append, List.mem_singleton, or_and_right, exists_or, exists_eq_left, new, false_and,
      or_false]

theorem exists_limited_iff (registered : Registered p rules b) (q : ActionKind → Prop) (other : ¬ q .trace)
    (c : Call) :
    (∃ a ∈ b.limited.actions, q a.kind ∧ a.applies c p = true) ↔
      ∃ r ∈ rules, q r.kind ∧ r.filter.holds c p = true := by
  have each {k : ActionKind} (kind : q k) := applies_limited_iff registered (fun trace => other (trace ▸ kind)) c
  constructor
  · rintro ⟨a, mem, kind, applies⟩
    obtain ⟨r, rule, same, holds⟩ := (each kind).mp ⟨a, mem, rfl, applies⟩
    exact ⟨r, rule, same ▸ kind, holds⟩
  · rintro ⟨r, rule, kind, holds⟩
    obtain ⟨a, mem, same, applies⟩ := (each kind).mpr ⟨r, rule, rfl, holds⟩
    exact ⟨a, mem, same ▸ kind, applies⟩

theorem exists_of_alone {before after : List Action} {a : Action} {k : ActionKind}
    (noneBefore : ∀ x ∈ before, x.kind ≠ k) (noneAfter : ∀ x ∈ after, x.kind ≠ k) (own : a.kind = k)
    (q : Action → Prop) :
    (∃ x ∈ before ++ a :: after, x.kind = k ∧ q x) ↔ q a := by
  constructor
  · rintro ⟨x, mem, kind, holds⟩
    rcases List.mem_append.mp mem with early | mem
    · exact absurd kind (noneBefore x early)
    · rcases List.mem_cons.mp mem with rfl | late
      · exact holds
      · exact absurd kind (noneAfter x late)
  · intro holds
    exact ⟨a, List.mem_append_right before List.mem_cons_self, own, holds⟩

/-- A call is traced if one of its paths is selected, and the clauses about tracing allow it. Without such clauses
a call of any known personality is allowed. -/
theorem traces_limited_iff (registered : Registered p rules b) (paths : b.paths.isEmpty = false) (c : Call) :
    (∃ a ∈ b.limited.actions, a.kind = .trace ∧ a.applies c p = true) ↔
      ((∃ r ∈ rules, r.kind = .trace ∧ r.filter.holds c p = true) ∨
        (¬ ∃ r ∈ rules, r.kind = .trace) ∧ (p.get? c.personality).isSome = true) ∧
        b.paths.meets c.paths = true := by
  rw [← registered.exists_applies_iff, ← registered.exists_action_iff]
  unfold limited
  rw [paths, if_neg Bool.false_ne_true]
  obtain ⟨before, a, after, split, kind, changed⟩ | ⟨untraced, changed⟩ :=
    limitToPaths_cases registered <;> rw [changed]
  · -- No other action traces, so to limit this one is to limit tracing.
    have known : a ∈ b.actions := by simp [split]
    obtain ⟨noneBefore, noneAfter⟩ := registered.others_ne split (by rw [kind]; rfl)
    rw [kind] at noneBefore noneAfter
    have hits : (∃ x ∈ b.actions, x.kind = .trace ∧ x.applies c p = true) ↔ a.applies c p = true := by
      rw [split]
      exact exists_of_alone noneBefore noneAfter kind _
    have mentioned : ∃ x ∈ b.actions, x.kind = .trace := ⟨a, known, kind⟩
    have limited : (a.limited (.path b.paths)).kind = .trace := kind
    refine (exists_of_alone noneBefore noneAfter limited _).trans ?_
    rw [Action.applies_limited (registered.alternatives a known) (registered.nonempty a known), Bool.and_eq_true,
      hits, not_iff_false_intro mentioned, false_and, or_false]
    rfl
  · have unmentioned : ¬ ∃ x ∈ b.actions, x.kind = .trace := fun ⟨x, mem, trace⟩ => untraced x mem trace
    have miss : ¬ ∃ x ∈ b.actions, x.kind = .trace ∧ x.applies c p = true :=
      fun ⟨x, mem, trace, _⟩ => untraced x mem trace
    have noneAfter : ∀ x ∈ ([] : List Action), x.kind ≠ .trace := nofun
    refine (exists_of_alone untraced noneAfter rfl _).trans ?_
    rw [Action.applies_limited (alternatives_tracesAll _ p) (List.cons_ne_nil _ _), Bool.and_eq_true,
      applies_tracesAll]
    simp only [unmentioned, miss, not_false_eq_true, true_and, false_or]
    rfl

theorem traces_iff (registered : Registered p rules b) (c : Call) :
    (∃ a ∈ b.limited.actions, a.kind = .trace ∧ a.applies c p = true) ↔
      ((∃ r ∈ rules, r.kind = .trace ∧ r.filter.holds c p = true) ∨
        (¬ ∃ r ∈ rules, r.kind = .trace) ∧ b.paths.isEmpty = false ∧ (p.get? c.personality).isSome = true) ∧
        (b.paths.isEmpty = true ∨ b.paths.meets c.paths = true) := by
  cases paths : b.paths.isEmpty with
  | true =>
    have limited : b.limited = b := if_pos paths
    rw [limited, registered.exists_applies_iff]
    simp
  | false =>
    rw [traces_limited_iff registered paths]
    simp

theorem testBit_limited_defaults (registered : Registered p rules b) (i : Nat) :
    b.limited.defaults.bits.testBit i =
      (b.defaults.bits.testBit i && (b.paths.isEmpty || !decide (Flag.bit Decision.trace = i))) := by
  unfold limited
  cases b.paths.isEmpty with
  | true => exact (Bool.and_true _).symm
  | false =>
    rw [if_neg Bool.false_ne_true, Bool.false_or]
    obtain ⟨before, a, after, split, kind, changed⟩ | ⟨untraced, changed⟩ :=
      limitToPaths_cases registered <;> rw [changed]
    · have known : a ∈ b.actions := by simp [split]
      have without := registered.testBit_without known i
      rw [kind] at without
      exact without.symm
    · exact Flags.testBit_erase b.defaults .trace i

end Limited

/-! ## Order -/

theorem runsBefore_trans (a b c : Action) (ab : runsBefore a b = true) (bc : runsBefore b c = true) :
    runsBefore a c = true := by
  simp only [runsBefore, Bool.or_eq_true, Bool.and_eq_true, decide_eq_true_eq] at *
  omega

theorem runsBefore_total (a b : Action) : (runsBefore a b || runsBefore b a) = true := by
  simp only [runsBefore, Bool.or_eq_true, Bool.and_eq_true, decide_eq_true_eq]
  omega

theorem finish_eq (b : Builder) :
    b.finish.1 = ⟨b.limited.personalities, b.limited.actions.mergeSort runsBefore, b.limited.defaults,
      b.limited.signals, .replicate (maxFilters (b.limited.actions.mergeSort runsBefore)) false⟩ := by
  unfold finish limited
  cases b.paths.isEmpty <;> rfl

theorem mem_finish_actions (b : Builder) (a : Action) : a ∈ b.finish.1.actions ↔ a ∈ b.limited.actions := by
  rw [finish_eq]
  exact List.mem_mergeSort

theorem finish_forall₂ {R : Action → Action → Prop} {b b' : Builder}
    (order : ∀ a a', R a a' → a'.id = a.id ∧ a'.kind = a.kind)
    (related : List.Forall₂ R b.limited.actions b'.limited.actions) :
    List.Forall₂ R b.finish.1.actions b'.finish.1.actions := by
  rw [finish_eq, finish_eq]
  refine forall₂_mergeSort (fun a a' x x' pair pair' => ?_) related
  unfold runsBefore
  rw [(order a a' pair).1, (order a a' pair).2, (order x x' pair').1, (order x x' pair').2]

theorem finish_sorted (b : Builder) :
    b.finish.1.actions.Pairwise fun a a' => a.kind.priority ≤ a'.kind.priority := by
  rw [finish_eq]
  refine (List.pairwise_mergeSort runsBefore_trans runsBefore_total b.limited.actions).imp fun {a a'} before => ?_
  simp only [runsBefore, Bool.or_eq_true, Bool.and_eq_true, decide_eq_true_eq] at before
  omega

end Builder

end SyscallFilter
