import Mathlib.Data.List.Induction
import SyscallFilter.Action

/-!
# Conditions by how they were built

A condition is built up by changes, each of which speaks of one result. Its value is that of the changes read from left
to right, however often the conjunctions have been multiplied out on the way.
-/

namespace SyscallFilter

namespace Condition

/-! ## One change -/

inductive Change where
  | and (index : Nat)
  | andNot (index : Nat)
  | or (index : Nat)
  deriving DecidableEq, Repr

def Change.index : Change → Nat
  | and i | andNot i | or i => i

def change (c : Condition) : Change → Condition
  | .and i => c.and ⟨i, false⟩
  | .andNot i => c.and ⟨i, true⟩
  | .or i => c.or i

/-- The numbers of the results that a condition speaks of. -/
def indices (c : Condition) : List Nat := c.clauses.flatten.map Literal.index

variable (c : Condition) (l : Literal) (index : Nat) (results : List Bool)

theorem eval_and :
    (c.and l).eval results = if c.isEmpty then l.eval results else c.eval results && l.eval results := by
  obtain ⟨clauses⟩ := c
  cases clauses with
  | nil => simp [and, eval, isEmpty]
  | cons clause rest =>
    simp only [and, eval, isEmpty, List.isEmpty_cons, Bool.false_eq_true, if_false]
    rw [List.any_map, List.and_any_distrib_right]
    simp [Function.comp_def]

theorem eval_or : (c.or index).eval results = (c.eval results || Literal.eval ⟨index, false⟩ results) := by
  simp [or, eval]

theorem isEmpty_change (ch : Change) : (c.change ch).isEmpty = false := by
  obtain ⟨clauses⟩ := c
  cases ch <;> cases clauses <;> simp [change, and, or, isEmpty]

theorem nil_not_mem_change (full : [] ∉ c.clauses) (ch : Change) : [] ∉ (c.change ch).clauses := by
  obtain ⟨clauses⟩ := c
  cases ch <;> cases clauses <;> simp_all [change, and, or]

theorem mem_indices_and (i : Nat) : i ∈ (c.and l).indices ↔ i ∈ c.indices ∨ i = l.index := by
  obtain ⟨clauses⟩ := c
  unfold indices and
  cases clauses with
  | nil => simp
  | cons clause rest =>
    simp only [List.mem_map, List.mem_flatten]
    constructor
    · rintro ⟨l', ⟨clause', ⟨old, among, rfl⟩, within⟩, rfl⟩
      rcases List.mem_append.mp within with within | last
      · exact .inl ⟨l', ⟨old, among, within⟩, rfl⟩
      · exact .inr (by rw [List.mem_singleton.mp last])
    · rintro (⟨l', ⟨old, among, within⟩, rfl⟩ | rfl)
      · exact ⟨l', ⟨_, ⟨old, among, rfl⟩, List.mem_append_left _ within⟩, rfl⟩
      · exact ⟨l, ⟨_, ⟨clause, List.mem_cons_self, rfl⟩, by simp⟩, rfl⟩

theorem mem_indices_change (ch : Change) (i : Nat) : i ∈ (c.change ch).indices ↔ i ∈ c.indices ∨ i = ch.index := by
  cases ch with
  | and j => exact c.mem_indices_and ⟨j, false⟩ i
  | andNot j => exact c.mem_indices_and ⟨j, true⟩ i
  | or j => simp [change, or, indices, Change.index]

/-! ## Any number of changes -/

def ofChanges (changes : List Change) : Condition := changes.foldl change .empty

/-- The value after one more change. There is no value before the first: what it speaks of is then all there is. -/
def Change.value (results : List Bool) : Option Bool → Change → Bool
  | none, and i | none, or i => results[i]?.getD false
  | none, andNot i => !results[i]?.getD false
  | some before, and i => before && results[i]?.getD false
  | some before, andNot i => before && !results[i]?.getD false
  | some before, or i => before || results[i]?.getD false

/-- The value of changes that are read from left to right, if there is any. -/
def value? (changes : List Change) : Option Bool :=
  changes.foldl (fun before ch => some (ch.value results before)) none

theorem ofChanges_concat (changes : List Change) (ch : Change) :
    ofChanges (changes ++ [ch]) = (ofChanges changes).change ch := by
  simp [ofChanges]

theorem eval_change (ch : Change) :
    (c.change ch).eval results = ch.value results (if c.isEmpty then none else some (c.eval results)) := by
  have empty (none : c.isEmpty = true) : c.eval results = false := by
    simp [eval, List.isEmpty_iff.mp none]
  cases ch <;> cases h : c.isEmpty <;> simp_all [change, eval_and, eval_or, Change.value, Literal.eval]

theorem isEmpty_ofChanges (changes : List Change) : (ofChanges changes).isEmpty = changes.isEmpty := by
  induction changes using List.reverseRecOn with
  | nil => rfl
  | append_singleton changes ch _ =>
    rw [ofChanges_concat, isEmpty_change]
    simp

theorem value?_eq (changes : List Change) :
    value? results changes = if changes.isEmpty then none else some ((ofChanges changes).eval results) := by
  induction changes using List.reverseRecOn with
  | nil => rfl
  | append_singleton changes ch ih =>
    have step : value? results (changes ++ [ch]) = some (ch.value results (value? results changes)) := by
      simp [value?]
    rw [step, ih, ofChanges_concat, eval_change, isEmpty_ofChanges]
    simp

theorem nil_not_mem_ofChanges (changes : List Change) : [] ∉ (ofChanges changes).clauses := by
  induction changes using List.reverseRecOn with
  | nil => exact List.not_mem_nil
  | append_singleton changes ch ih =>
    rw [ofChanges_concat]
    exact nil_not_mem_change _ ih ch

theorem mem_indices_ofChanges (changes : List Change) (i : Nat) :
    i ∈ (ofChanges changes).indices ↔ i ∈ changes.map Change.index := by
  induction changes using List.reverseRecOn with
  | nil => exact Iff.rfl
  | append_singleton changes ch ih =>
    rw [ofChanges_concat, mem_indices_change, ih]
    simp

theorem max?_eq_of_mem_iff {xs ys : List Nat} (same : ∀ n, n ∈ xs ↔ n ∈ ys) : xs.max? = ys.max? := by
  cases largest : ys.max? with
  | none =>
    rw [List.max?_eq_none_iff] at largest ⊢
    exact List.eq_nil_iff_forall_not_mem.mpr fun n mem => by simp [same, largest] at mem
  | some n => simpa only [List.max?_eq_some_iff, same] using largest

/-- A condition that is built by changes has the value of these changes, read from left to right. No conjunction of it is
empty, it is empty itself only without changes, and its largest number is the largest that was used. -/
theorem ofChanges_means (changes : List Change) :
    let c := ofChanges changes
    (∀ results, c.eval results = (value? results changes).getD false) ∧
      [] ∉ c.clauses ∧
      (c.isEmpty = true ↔ changes = []) ∧
      c.maxIndex? = (changes.map Change.index).max? := by
  intro c
  refine ⟨fun results => ?_, nil_not_mem_ofChanges changes, ?_, max?_eq_of_mem_iff (mem_indices_ofChanges changes)⟩
  · rw [value?_eq]
    cases changes with
    | nil => rfl
    | cons => rfl
  · rw [isEmpty_ofChanges, List.isEmpty_iff]

-- The last change goes into both alternatives.
example : (ofChanges [.or 0, .or 1, .and 2]).eval [true, false, true] = true := by decide

end Condition

end SyscallFilter
