import Mathlib.Data.List.Sort
import SyscallFilter.NumberSet

/-! # Bits, words and polarity of number sets -/

namespace SyscallFilter.NumberSet

/-! ## Adding -/

@[simp]
theorem mem_bits_add (s : NumberSet) (n k : Nat) : k ∈ (s.add n).bits ↔ k = n ∨ k ∈ s.bits :=
  mem_insertAscending

@[simp]
theorem inverted_add (s : NumberSet) (n : Nat) : (s.add n).inverted = s.inverted := rfl

@[simp]
theorem mem_bits_addAll (s : NumberSet) (ns : List Nat) (k : Nat) :
    k ∈ (s.addAll ns).bits ↔ k ∈ ns ∨ k ∈ s.bits := by
  unfold addAll
  induction ns generalizing s with
  | nil => simp
  | cons n ns ih =>
    rw [List.foldl_cons, ih, mem_bits_add, List.mem_cons]
    tauto

@[simp]
theorem inverted_addAll (s : NumberSet) (ns : List Nat) : (s.addAll ns).inverted = s.inverted := by
  unfold addAll
  induction ns generalizing s with
  | nil => rfl
  | cons n ns ih => rw [List.foldl_cons, ih, inverted_add]

theorem words_addAll (s : NumberSet) (ns : List Nat) (fits : ∀ n ∈ ns, n / 32 < s.words) :
    (s.addAll ns).words = s.words := by
  unfold addAll
  induction ns generalizing s with
  | nil => rfl
  | cons n ns ih =>
    have hn : (s.add n).words = s.words := Nat.max_eq_left (fits n List.mem_cons_self)
    rw [List.foldl_cons, ih (s.add n), hn]
    intro k hk
    rw [hn]
    exact fits k (List.mem_cons_of_mem n hk)

/-! ## Turning round -/

@[simp]
theorem bits_invertTimes (s : NumberSet) (k : Nat) : (s.invertTimes k).bits = s.bits := by
  induction k generalizing s with
  | zero => rfl
  | succ k ih => exact ih s.invert

@[simp]
theorem words_invertTimes (s : NumberSet) (k : Nat) : (s.invertTimes k).words = s.words := by
  induction k generalizing s with
  | zero => rfl
  | succ k ih => exact ih s.invert

@[simp]
theorem inverted_invertTimes (s : NumberSet) (k : Nat) :
    (s.invertTimes k).inverted = (s.inverted ^^ decide (k % 2 = 1)) := by
  induction k generalizing s with
  | zero => exact (Bool.xor_false s.inverted).symm
  | succ k ih =>
    have odd : decide ((k + 1) % 2 = 1) = !decide (k % 2 = 1) := by
      rw [← decide_not]
      congr 1
      apply propext
      omega
    rw [invertTimes, ih, odd, Bool.xor_not]
    exact Bool.not_xor s.inverted (decide (k % 2 = 1))

/-! ## Equality -/

theorem eq_of_mem_iff {s t : NumberSet} (bits : ∀ n, n ∈ s.bits ↔ n ∈ t.bits) (words : s.words = t.words)
    (inverted : s.inverted = t.inverted) : s = t := by
  have same : s.bits = t.bits := s.ascending.eq_of_mem_iff t.ascending bits
  cases s
  cases t
  simp_all

/-- The set with its polarity turned `k` times. -/
def turned (s : NumberSet) (k : Nat) : NumberSet :=
  { s with inverted := s.inverted ^^ decide (k % 2 = 1) }

theorem invertTimes_eq_turned (s : NumberSet) (k : Nat) : s.invertTimes k = s.turned k := by
  apply eq_of_mem_iff
  · intro n
    rw [bits_invertTimes]
    rfl
  · exact s.words_invertTimes k
  · exact s.inverted_invertTimes k

theorem invert_turned (s : NumberSet) (k : Nat) : (s.turned k).invert = s.turned (k + 1) := by
  rw [← invertTimes_eq_turned, ← invertTimes_eq_turned]
  induction k generalizing s with
  | zero => rfl
  | succ k ih => exact ih s.invert

/-! ## Members -/

theorem contains_eq_true_iff (s : NumberSet) (n : Nat) : s.contains n = true ↔ Xor (s.inverted = true) (n ∈ s.bits) := by
  unfold contains
  rw [Bool.xor_comm, Bool.xor_iff_ne, List.contains_eq_mem, xor_iff_iff_not]
  cases s.inverted <;> simp

theorem inverted_turned_empty (k : Nat) : (empty.turned k).inverted = true ↔ k % 2 = 1 := by
  simp [turned, empty]

theorem contains_turned_empty (k n : Nat) : (empty.turned k).contains n = true ↔ k % 2 = 1 := by
  simp [contains, turned, empty]

end SyscallFilter.NumberSet
