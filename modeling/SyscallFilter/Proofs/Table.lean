import Mathlib.Order.Bounds.Defs
import SyscallFilter.Table

/-!
# Names and numbers of a table

The name of a number, the number of a name and the list of allocated entries all tell of the same entries. A name may
stand at several numbers; its number is the least of them, which is the first in the list.
-/

namespace SyscallFilter.Table

/-! ## The allocated entries -/

theorem mem_allocatedFrom (start : Nat) (es : List Entry) (n : Nat) (called : String)
    (classes : Flags SyscallClass) :
    (n, called, classes) ∈ allocatedFrom start es ↔
      start ≤ n ∧ es[n - start]? = some ⟨some called, classes⟩ := by
  induction es generalizing start with
  | nil => simp [allocatedFrom]
  | cons e es ih =>
    obtain ⟨name, cls⟩ := e
    have tail : (n, called, classes) ∈ allocatedFrom (start + 1) es ↔
        start < n ∧ (⟨name, cls⟩ :: es)[n - start]? = some ⟨some called, classes⟩ := by
      rw [ih (start + 1), Nat.succ_le_iff]
      refine and_congr_right fun later => ?_
      rw [show n - start = (n - (start + 1)) + 1 by omega, List.getElem?_cons_succ]
    have split : (start ≤ n ∧ (⟨name, cls⟩ :: es)[n - start]? = some ⟨some called, classes⟩) ↔
        (n = start ∧ name = some called ∧ cls = classes) ∨
          (n, called, classes) ∈ allocatedFrom (start + 1) es := by
      rw [tail]
      rcases Nat.lt_trichotomy n start with h | rfl | h
      · simp only [Nat.not_le.mpr h, Nat.not_lt.mpr (Nat.le_of_lt h), Nat.ne_of_lt h, false_and, or_self]
      · simp
      · simp only [Nat.le_of_lt h, h, (Nat.ne_of_lt h).symm, true_and, false_and, false_or]
    rw [split]
    cases name with
    | none => simp [allocatedFrom]
    | some name =>
      simp only [allocatedFrom, List.mem_cons, Prod.mk.injEq, Option.some.injEq]
      refine or_congr ?_ Iff.rfl
      exact and_congr_right fun _ => and_congr eq_comm eq_comm

theorem mem_allocated (t : Table) (n : Nat) (called : String) (classes : Flags SyscallClass) :
    (n, called, classes) ∈ t.allocated ↔ t.entries[n]? = some ⟨some called, classes⟩ := by
  unfold allocated
  rw [mem_allocatedFrom, Nat.sub_zero]
  exact and_iff_right (Nat.zero_le n)

theorem mem_map_filter_allocated (t : Table) (q : Nat × String × Flags SyscallClass → Bool) (n : Nat) :
    n ∈ (t.allocated.filter q).map (·.1) ↔
      ∃ called classes, t.entries[n]? = some ⟨some called, classes⟩ ∧ q (n, called, classes) = true := by
  rw [List.mem_map]
  constructor
  · rintro ⟨⟨k, called, classes⟩, passed, rfl⟩
    obtain ⟨allocated, test⟩ := List.mem_filter.mp passed
    exact ⟨called, classes, (t.mem_allocated k called classes).mp allocated, test⟩
  · rintro ⟨called, classes, allocated, test⟩
    refine ⟨(n, called, classes), List.mem_filter.mpr ⟨?_, test⟩, rfl⟩
    exact (t.mem_allocated n called classes).mpr allocated

theorem pairwise_allocatedFrom (start : Nat) (es : List Entry) : (allocatedFrom start es).Pairwise (·.1 < ·.1) := by
  induction es generalizing start with
  | nil => exact .nil
  | cons e es ih =>
    unfold allocatedFrom
    split
    next name _ =>
      refine .cons ?_ (ih (start + 1))
      rintro ⟨n, called, classes⟩ later
      exact ((mem_allocatedFrom (start + 1) es n called classes).mp later).1
    next => exact ih (start + 1)

/-! ## One name -/

/-- The number is allocated to a call of this name. -/
def Allocates (t : Table) (n : Nat) (name : String) : Prop := ∃ classes, t.entries[n]? = some ⟨some name, classes⟩

variable {t : Table} {n : Nat} {name : String}

theorem allocates_iff : t.Allocates n name ↔ ∃ inside : n < t.entries.length, t.entries[n].name = some name := by
  unfold Allocates
  simp only [List.getElem?_eq_some_iff]
  constructor
  · rintro ⟨classes, inside, entry⟩
    exact ⟨inside, by rw [entry]⟩
  · rintro ⟨inside, named⟩
    exact ⟨t.entries[n].classes, inside, by rw [← named]⟩

theorem Allocates.lt_size (allocates : t.Allocates n name) : n < t.size := (allocates_iff.mp allocates).1

theorem nameOf?_eq_some_iff : t.nameOf? n = some name ↔ t.Allocates n name := by
  unfold nameOf? get?
  rw [allocates_iff, Option.bind_eq_some_iff]
  simp only [List.getElem?_eq_some_iff]
  constructor
  · rintro ⟨_, ⟨inside, rfl⟩, named⟩
    exact ⟨inside, named⟩
  · rintro ⟨inside, named⟩
    exact ⟨_, ⟨inside, rfl⟩, named⟩

instance : Decidable (t.Allocates n name) := decidable_of_iff _ nameOf?_eq_some_iff

theorem nameOf?_eq_none_iff : t.nameOf? n = none ↔ ∀ name, ¬t.Allocates n name := by
  rw [Option.eq_none_iff_forall_ne_some]
  exact forall_congr' fun name => not_congr nameOf?_eq_some_iff

/-- The number of a name is the least that is allocated to it. -/
theorem numberOf?_eq_some_iff : t.numberOf? name = some n ↔ IsLeast {m | t.Allocates m name} n := by
  unfold numberOf?
  rw [List.findIdx?_eq_some_iff_getElem]
  constructor
  · rintro ⟨inside, named, fresh⟩
    refine ⟨allocates_iff.mpr ⟨inside, of_decide_eq_true named⟩, fun m allocates => Nat.le_of_not_lt fun before => ?_⟩
    obtain ⟨_, earlier⟩ := allocates_iff.mp allocates
    exact fresh m before (decide_eq_true earlier)
  · rintro ⟨allocates, least⟩
    obtain ⟨inside, named⟩ := allocates_iff.mp allocates
    refine ⟨inside, decide_eq_true named, fun m before earlier => Nat.not_le_of_lt before (least ?_)⟩
    exact allocates_iff.mpr ⟨Nat.lt_trans before inside, of_decide_eq_true earlier⟩

theorem numberOf?_eq_none_iff : t.numberOf? name = none ↔ ∀ e ∈ t.entries, e.name ≠ some name := by
  unfold numberOf?
  rw [List.findIdx?_eq_none_iff]
  simp only [decide_eq_false_iff_not, ne_eq]

theorem find?_allocatedFrom (start : Nat) (es : List Entry) (name : String) :
    ((allocatedFrom start es).find? (·.2.1 = name)).map (·.1) =
      (es.findIdx? (·.name = some name)).map (start + ·) := by
  induction es generalizing start with
  | nil => rfl
  | cons e es ih =>
    have shifted : (es.findIdx? (·.name = some name)).map (start + 1 + ·) =
        ((es.findIdx? (·.name = some name)).map (· + 1)).map (start + ·) := by
      rw [Option.map_map]
      exact congrArg (Option.map · _) (funext fun k => by simp only [Function.comp_apply]; omega)
    unfold allocatedFrom
    rw [List.findIdx?_cons]
    cases called : e.name with
    | none => simp [ih, shifted]
    | some other =>
      by_cases same : other = name
      · simp [same]
      · simp [same, ih, shifted]

theorem numberOf?_eq_find? (t : Table) (name : String) :
    t.numberOf? name = (t.allocated.find? (·.2.1 = name)).map (·.1) := by
  unfold numberOf? allocated
  rw [find?_allocatedFrom]
  simp only [Nat.zero_add, Option.map_id']

end SyscallFilter.Table
