import SyscallFilter.Engine
import SyscallFilter.Proofs.Dispatch

/-!
# Actions whose filters are alternatives

Clauses only ever add alternatives, so the condition of an action is that one of its filters holds. Limiting it
to paths adds one filter that must hold as well.
-/

namespace SyscallFilter

theorem Filter.holds_congr (f : Filter) {c c' : Call} (p : Personalities)
    (personality : c'.personality = c.personality) (number : c'.number = c.number) (args : c'.args = c.args)
    (paths : c'.paths = c.paths) :
    f.holds c' p = f.holds c p := by
  cases f with
  | syscall sets => rw [holds, holds, personality, number]
  | fd set =>
    unfold holds Call.descriptor
    rw [personality, number, args]
  | path set => rw [holds, holds, paths]

theorem Filter.holds_allCalls (c : Call) (p : Personalities) :
    (Filter.allCalls p).holds c p = (p.get? c.personality).isSome := by
  have sets : (Filter.allCalls p).holds c p =
      (p.tables.map fun _ => NumberSet.empty.invert)[c.personality]?.any (·.contains c.number) := rfl
  rw [sets, List.getElem?_map, Personalities.get?]
  cases p.tables[c.personality]? with
  | none => rfl
  | some t => rfl

/-! ## Literals and one more filter -/

theorem Literal.holds_append {l : Literal} {filters : List Filter} (known : l.index < filters.length) (f : Filter)
    (c : Call) (p : Personalities) : l.holds (filters ++ [f]) c p = l.holds filters c p := by
  unfold holds
  rw [List.getElem?_append_left known]

theorem Literal.holds_last (filters : List Filter) (f : Filter) (c : Call) (p : Personalities) :
    Literal.holds ⟨filters.length, false⟩ (filters ++ [f]) c p = f.holds c p := by
  unfold holds
  rw [List.getElem?_concat_length, Option.any_some, Bool.bne_false]

theorem Literal.holds_getElem {filters : List Filter} {i : Nat} (known : i < filters.length) (c : Call)
    (p : Personalities) : Literal.holds ⟨i, false⟩ filters c p = filters[i].holds c p := by
  unfold holds
  rw [List.getElem?_eq_getElem known, Option.any_some, Bool.bne_false]

/-! ## Alternatives -/

namespace Action

/-- The condition is that some filter holds, whichever. -/
def Alternatives (a : Action) : Prop :=
  a.condition.clauses = (List.range a.filters.length).map fun i => [⟨i, false⟩]

theorem alternatives_new (id : Nat) (k : ActionKind) : (new id k).Alternatives := rfl

theorem alternatives_addAlternative {a : Action} (alts : a.Alternatives) (f : Filter) :
    (a.addAlternative f).Alternatives := by
  unfold Alternatives at alts ⊢
  have length : (a.addAlternative f).filters.length = a.filters.length + 1 := List.length_append
  rw [length, List.range_succ, List.map_append, ← alts]
  rfl

theorem applies_of_alternatives {a : Action} (alts : a.Alternatives) (c : Call) (p : Personalities) :
    a.applies c p = true ↔ ∃ f ∈ a.filters, f.holds c p = true := by
  unfold applies
  rw [alts, List.any_map, List.any_eq_true]
  constructor
  · rintro ⟨i, known, holds⟩
    rw [List.mem_range] at known
    rw [Function.comp_apply, List.all_cons, List.all_nil, Bool.and_true, Literal.holds_getElem known] at holds
    exact ⟨a.filters[i], List.getElem_mem known, holds⟩
  · rintro ⟨f, mem, holds⟩
    obtain ⟨i, known, rfl⟩ := List.getElem_of_mem mem
    refine ⟨i, List.mem_range.mpr known, ?_⟩
    rw [Function.comp_apply, List.all_cons, List.all_nil, Bool.and_true, Literal.holds_getElem known]
    exact holds

theorem applies_addAlternative {a : Action} (alts : a.Alternatives) (f : Filter) (c : Call)
    (p : Personalities) : (a.addAlternative f).applies c p = (a.applies c p || f.holds c p) := by
  have filters : (a.addAlternative f).filters = a.filters ++ [f] := rfl
  rw [Bool.eq_iff_iff, Bool.or_eq_true, applies_of_alternatives (alternatives_addAlternative alts f),
    applies_of_alternatives alts, filters]
  simp only [List.mem_append, List.mem_singleton, or_and_right, exists_or, exists_eq_left]

/-! ## Limits -/

/-- The action with one more filter that has to hold too. -/
def limited (a : Action) (f : Filter) : Action :=
  { a.addFilter f with condition := a.condition.and ⟨a.filters.length, false⟩ }

theorem limited_clauses {a : Action} (alts : a.Alternatives) (nonempty : a.filters ≠ []) (f : Filter) :
    (a.limited f).condition.clauses =
      (List.range a.filters.length).map fun i => [⟨i, false⟩, ⟨a.filters.length, false⟩] := by
  unfold limited Condition.and
  rw [alts]
  cases n : a.filters.length with
  | zero =>
    -- Where there is no filter yet there is nothing to limit.
    exact absurd (List.eq_nil_of_length_eq_zero n) nonempty
  | succ m => simp [List.range_succ_eq_map]

theorem applies_limited {a : Action} (alts : a.Alternatives) (nonempty : a.filters ≠ []) (f : Filter) (c : Call)
    (p : Personalities) :
    (a.limited f).applies c p = (a.applies c p && f.holds c p) := by
  have clauses := limited_clauses alts nonempty f
  unfold applies
  rw [clauses, alts, List.any_map, List.any_map, List.and_any_distrib_right, Bool.eq_iff_iff, List.any_eq_true,
    List.any_eq_true]
  refine exists_congr fun i => and_congr_right fun known => ?_
  have first : Literal.holds ⟨i, false⟩ (a.filters ++ [f]) c p = Literal.holds ⟨i, false⟩ a.filters c p :=
    Literal.holds_append (List.mem_range.mp known) f c p
  have last : Literal.holds ⟨a.filters.length, false⟩ (a.filters ++ [f]) c p = f.holds c p :=
    Literal.holds_last a.filters f c p
  have filters : (a.limited f).filters = a.filters ++ [f] := rfl
  simp only [Function.comp_apply, List.all_cons, List.all_nil, Bool.and_true, filters, first, last]

end Action

end SyscallFilter
