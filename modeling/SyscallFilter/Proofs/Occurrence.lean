import SyscallFilter.Proofs.CheckedReading
import SyscallFilter.Proofs.InjectionText

/-!
# Occurrences that are injected into

An injection is made at its first occurrence and then at every one that is a whole number of steps later. Up to any
occurrence that is reached there are as many of them as there are whole steps in its distance from the first one, and
one more.
-/

namespace SyscallFilter.Injection

variable (i : Injection)

/-! ## One occurrence -/

theorem firesOn_iff_dvd (n : Nat) : i.firesOn n = true ↔ i.first ≤ n ∧ i.step ∣ n - i.first := by
  unfold firesOn
  split
  next early => simp [early]
  next reached =>
    have later : i.first ≤ n := Nat.le_of_not_lt reached
    split
    next same => simp [same]
    next other =>
      have apart : n - i.first ≠ 0 := by omega
      by_cases once : i.step = 0
      · simp [once, apart]
      · simp [once, later, Nat.dvd_iff_mod_eq_zero]

theorem firesOn_iff_add_mul (n : Nat) :
    i.firesOn n = true ↔ ∃ k, n = i.first + k * i.step ∧ (i.step = 0 → k = 0) := by
  rw [firesOn_iff_dvd]
  constructor
  · rintro ⟨later, k, distance⟩
    have sum : n = i.first + i.step * k := by omega
    by_cases once : i.step = 0
    · exact ⟨0, by simpa [once] using sum, fun _ => rfl⟩
    · exact ⟨k, by rwa [Nat.mul_comm], fun zero => absurd zero once⟩
  · rintro ⟨k, rfl, -⟩
    rw [Nat.add_sub_cancel_left]
    exact ⟨Nat.le_add_right _ _, Nat.dvd_mul_left _ _⟩

/-! ## Many occurrences -/

/-- How many of the occurrences from one up to the last are injected into. -/
def firings (last : Nat) : Nat := (List.range' 1 last).countP i.firesOn

theorem firings_succ (last : Nat) : i.firings (last + 1) = i.firings last + if i.firesOn (last + 1) then 1 else 0 := by
  unfold firings
  rw [List.range'_1_concat, List.countP_append, List.countP_singleton, Nat.add_comm 1 last]

variable {i}

theorem firings_eq (counted : 1 ≤ i.first) (last : Nat) :
    i.firings last = if last < i.first then 0 else (last - i.first) / i.step + 1 := by
  induction last with
  | zero => exact (if_pos counted).symm
  | succ last ih =>
    simp only [firings_succ, ih, firesOn_iff_dvd]
    rcases Nat.lt_trichotomy (last + 1) i.first with early | first | later
    · have before : last < i.first := Nat.lt_of_succ_lt early
      rw [if_pos before, if_pos early, if_neg fun reached => Nat.not_le_of_lt early reached.1]
    · have before : last < i.first := Nat.lt_of_succ_le (Nat.le_of_eq first)
      have none : last + 1 - i.first = 0 := Nat.sub_eq_zero_of_le (Nat.le_of_eq first)
      rw [if_pos before, if_neg (Nat.not_lt_of_le (Nat.le_of_eq first.symm)), none, Nat.zero_div,
        if_pos ⟨Nat.le_of_eq first.symm, Nat.dvd_zero _⟩]
    · -- The distance grows by one, and its quotient does so exactly where a step ends.
      have reached : i.first ≤ last := Nat.le_of_lt_succ later
      have distance : last + 1 - i.first = last - i.first + 1 := Nat.succ_sub reached
      have within : i.first ≤ last + 1 := Nat.le_of_lt later
      rw [if_neg (Nat.not_lt_of_le reached), if_neg (Nat.not_lt_of_le within), distance, Nat.succ_div]
      simp only [within, true_and]
      rw [Nat.add_right_comm]

/-- The occurrences are an arithmetic progression, and finding out about one of them meets no fault. What is read of
arguments starts at one or later, and how many of the occurrences up to any are injected into is then a quotient. -/
theorem firesOn_progression (i : Injection) :
    (∀ n, Checked.firesOn i n = .ok (i.firesOn n) ∧
      (i.firesOn n = true ↔ ∃ k, n = i.first + k * i.step ∧ (i.step = 0 → k = 0))) ∧
    (i.Readable → 1 ≤ i.first) ∧
    (1 ≤ i.first → ∀ last, i.firings last =
      if last < i.first then 0 else if i.step = 0 then 1 else (last - i.first) / i.step + 1) := by
  refine ⟨fun n => ⟨Checked.firesOn_eq i n, i.firesOn_iff_add_mul n⟩, fun readable => ?_, fun counted last => ?_⟩
  · exact (valid_of_readable readable).first.1
  · rw [firings_eq counted]
    by_cases once : i.step = 0
    · rw [if_pos once, once, Nat.div_zero]
    · rw [if_neg once]

theorem firesOn_progression_third :
    let often : Injection := ⟨3, 4, .error 5, 0⟩
    let once : Injection := ⟨3, 0, .error 5, 0⟩
    1 ≤ often.first ∧ often.Readable ∧ often.firesOn 4294967295 = true ∧
      often.firings 4294967295 = 1073741824 ∧ once.firings 4294967295 = 1 := by
  intro often once
  have read : often.Readable := ⟨some "when=3+4:error=5", true, .clause, by decide +kernel⟩
  obtain ⟨fires, start, count⟩ := firesOn_progression often
  obtain ⟨-, -, count'⟩ := firesOn_progression once
  have counted : 1 ≤ often.first := start read
  refine ⟨counted, read, (fires 4294967295).2.mpr ⟨1073741823, by decide, by decide⟩, ?_, ?_⟩
  · rw [count counted]
    decide
  · rw [count' (by decide)]
    decide

end SyscallFilter.Injection
