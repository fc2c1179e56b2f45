import SyscallFilter.Call

/-! # Which flags are in a set -/

namespace SyscallFilter

namespace Flags

variable {α : Type}

@[simp]
theorem testBit_union (s t : Flags α) (i : Nat) :
    (s.union t).bits.testBit i = (s.bits.testBit i || t.bits.testBit i) :=
  Nat.testBit_or s.bits t.bits i

@[simp]
theorem testBit_diff (s t : Flags α) (i : Nat) :
    (s.diff t).bits.testBit i = (s.bits.testBit i && !t.bits.testBit i) := by
  unfold diff
  rw [Nat.testBit_xor, Nat.testBit_and]
  cases s.bits.testBit i <;> cases t.bits.testBit i <;> rfl

variable [Flag α]

@[simp]
theorem testBit_single (a : α) (i : Nat) : (single a).bits.testBit i = decide (Flag.bit a = i) := by
  have power : (single a).bits = 2 ^ Flag.bit a := Nat.one_shiftLeft _
  rw [power, Nat.testBit_two_pow]

@[simp]
theorem testBit_insert (s : Flags α) (a : α) (i : Nat) :
    (s.insert a).bits.testBit i = (s.bits.testBit i || decide (Flag.bit a = i)) := by
  unfold insert
  rw [testBit_union, testBit_single]

@[simp]
theorem testBit_erase (s : Flags α) (a : α) (i : Nat) :
    (s.erase a).bits.testBit i = (s.bits.testBit i && !decide (Flag.bit a = i)) := by
  unfold erase
  rw [testBit_diff, testBit_single]

theorem testBit_ofList (flags : List α) (i : Nat) :
    (ofList flags).bits.testBit i = flags.any fun a => decide (Flag.bit a = i) := by
  have inserted (flags : List α) (s : Flags α) :
      (flags.foldl insert s).bits.testBit i = (s.bits.testBit i || flags.any fun a => decide (Flag.bit a = i)) := by
    induction flags generalizing s with
    | nil => exact (Bool.or_false _).symm
    | cons a rest ih => rw [List.foldl_cons, ih, testBit_insert, List.any_cons, Bool.or_assoc]
  exact (inserted flags empty).trans (by simp [empty])

omit [Flag α] in
theorem ext_testBit {s t : Flags α} (same : ∀ i, s.bits.testBit i = t.bits.testBit i) : s = t := by
  cases s
  cases t
  exact congrArg Flags.mk (Nat.eq_of_testBit_eq same)

/-- Every bit of the first is in the second. -/
instance : LE (Flags α) := ⟨fun s t => ∀ i, s.bits.testBit i = true → t.bits.testBit i = true⟩

omit [Flag α] in
theorem le_antisymm {s t : Flags α} (le : s ≤ t) (ge : t ≤ s) : s = t :=
  ext_testBit fun i => Bool.eq_iff_iff.mpr ⟨le i, ge i⟩

theorem erase_diff_ofList (s : Flags α) (flags : List α) (a : α) :
    (s.diff (ofList flags)).erase a = s.diff (ofList (flags ++ [a])) := by
  refine ext_testBit fun i => ?_
  simp only [testBit_erase, testBit_diff, testBit_ofList, List.any_append, List.any_cons, List.any_nil,
    Bool.or_false, Bool.not_or, Bool.and_assoc]

theorem ofList_perm {flags flags' : List α} (perm : flags.Perm flags') : ofList flags = ofList flags' := by
  refine ext_testBit fun i => ?_
  rw [testBit_ofList, testBit_ofList, perm.any_eq]

theorem has_union (s t : Flags α) (a : α) : (s.union t).has a = (s.has a || t.has a) :=
  testBit_union s t (Flag.bit a)

end Flags

namespace Decision

theorem bit_inj (a b : Decision) : Flag.bit a = Flag.bit b ↔ a = b := by
  cases a <;> cases b <;> decide

theorem has_insert_iff (d : Decisions) (a b : Decision) :
    (d.insert a).has b = true ↔ d.has b = true ∨ a = b := by
  unfold Flags.has
  rw [Flags.testBit_insert, Bool.or_eq_true, decide_eq_true_eq, bit_inj]

end Decision

end SyscallFilter
