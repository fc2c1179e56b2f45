import Mathlib.Data.List.DropRight
import SyscallFilter.Proofs.Slots

/-!
# Sets of numbers by what was done to them

A set is made from the empty one by adding numbers, turning it round and clearing it. It contains what was added since
it was last cleared, turned round as often as it was turned since then. Only the count of its words goes further back.
-/

namespace SyscallFilter

namespace NumberSet

inductive Change where
  | add (n : UInt32)
  | invert
  | clear
  deriving DecidableEq, Repr

def change (s : NumberSet) : Change → NumberSet
  | .add n => s.add n.toNat
  | .invert => s.invert
  | .clear => s.clear

def ofChanges (changes : List Change) : NumberSet := changes.foldl change .empty

def Change.added? : Change → Option UInt32
  | add n => some n
  | invert | clear => none

def added (changes : List Change) : List UInt32 := changes.filterMap Change.added?

def sinceClear (changes : List Change) : List Change := changes.rtakeWhile (· ≠ .clear)

end NumberSet

/-! ## Changes of the words -/

namespace Slots

open NumberSet

def change (m : Slots) : Change → Checked Slots
  | .add n => m.add n
  | .invert => .ok m.invert
  | .clear => .ok m.clear

end Slots

namespace NumberSet

theorem change_slots (s : NumberSet) (ch : Change) : s.slots.change ch = .ok (s.change ch).slots := by
  cases ch with
  | add n => exact s.add_slots n
  | invert => rfl
  | clear => exact congrArg Except.ok s.clear_slots

theorem foldlM_change (changes : List Change) (s : NumberSet) :
    changes.foldlM Slots.change s.slots = .ok (changes.foldl change s).slots := by
  induction changes generalizing s with
  | nil => rfl
  | cons ch rest ih =>
    rw [List.foldlM_cons, change_slots, Checked.ok_bind]
    exact ih (s.change ch)

/-! ## What is left of the changes -/

variable (changes : List Change)

theorem ofChanges_concat (ch : Change) : ofChanges (changes ++ [ch]) = (ofChanges changes).change ch := by
  simp [ofChanges]

theorem kept_ofChanges : changes.foldlM Slots.change .empty = .ok (ofChanges changes).slots :=
  foldlM_change changes empty

theorem sinceClear_concat (ch : Change) :
    sinceClear (changes ++ [ch]) = if ch = .clear then [] else sinceClear changes ++ [ch] := by
  unfold sinceClear
  rw [List.rtakeWhile_concat]
  by_cases h : ch = .clear <;> simp [h]

theorem added_concat (ch : Change) : added (changes ++ [ch]) = added changes ++ ch.added?.toList := by
  cases ch <;> simp [added, Change.added?]

theorem mem_bits_ofChanges (n : Nat) :
    n ∈ (ofChanges changes).bits ↔ n ∈ (added (sinceClear changes)).map UInt32.toNat := by
  -- From the right, since the last change says what is left of those before it.
  induction changes using List.reverseRecOn with
  | nil => exact Iff.rfl
  | append_singleton changes ch ih =>
    rw [ofChanges_concat, sinceClear_concat]
    cases ch with
    | add k => simp [change, ih, added_concat, Change.added?, or_comm, eq_comm]
    | invert => simpa [change, invert, added_concat, Change.added?] using ih
    | clear => exact Iff.rfl

theorem toNat_mem_bits_ofChanges (n : UInt32) :
    n.toNat ∈ (ofChanges changes).bits ↔ n ∈ added (sinceClear changes) := by
  simp [mem_bits_ofChanges, UInt32.toNat_inj]

theorem inverted_ofChanges :
    (ofChanges changes).inverted = true ↔ (sinceClear changes).count .invert % 2 = 1 := by
  induction changes using List.reverseRecOn with
  | nil => simp [ofChanges, empty, sinceClear]
  | append_singleton changes ch ih =>
    rw [ofChanges_concat, sinceClear_concat]
    cases ch with
    | add k => simpa [change] using ih
    | invert =>
      simp [change, invert, ← Bool.not_eq_true, ih]
      omega
    | clear => simp [change, clear]

theorem lt_words_ofChanges_iff (place : Nat) :
    place < (ofChanges changes).words ↔ ∃ n ∈ added changes, place ≤ n.toNat / 32 := by
  induction changes using List.reverseRecOn with
  | nil => simp [ofChanges, empty, added]
  | append_singleton changes ch ih =>
    rw [ofChanges_concat, added_concat]
    cases ch with
    | add k =>
      have grown : place < ((ofChanges changes).change (.add k)).words ↔
          place < (ofChanges changes).words ∨ place ≤ k.toNat / 32 := by
        simp only [change, NumberSet.add]
        omega
      rw [grown, ih]
      simp [Change.added?, or_and_right, exists_or]
    | invert => simpa [change, invert, Change.added?] using ih
    | clear => simpa [change, clear, Change.added?] using ih

theorem words_ofChanges_le : (ofChanges changes).words ≤ 2 ^ 27 := by
  by_contra! more
  obtain ⟨n, -, le⟩ := (lt_words_ofChanges_iff changes _).mp more
  have lt := n.toNat_lt
  omega

theorem words_ofChanges :
    (ofChanges changes).words = ((added changes).map (·.toNat / 32)).max?.elim 0 (· + 1) := by
  cases largest : ((added changes).map (·.toNat / 32)).max? with
  | none =>
    have nothing : added changes = [] := by simpa [List.max?_eq_none_iff] using largest
    apply Nat.eq_zero_of_not_pos
    intro pos
    simpa [nothing] using (lt_words_ofChanges_iff changes 0).mp pos
  | some place =>
    obtain ⟨mem, upper⟩ := List.max?_eq_some_iff.mp largest
    obtain ⟨n, added, rfl⟩ := List.mem_map.mp mem
    have reached := (lt_words_ofChanges_iff changes (n.toNat / 32)).mpr ⟨n, added, Nat.le_refl _⟩
    show (ofChanges changes).words = n.toNat / 32 + 1
    refine Nat.le_antisymm ?_ reached
    by_contra! beyond
    obtain ⟨k, added', le⟩ := (lt_words_ofChanges_iff changes _).mp beyond
    have bound : k.toNat / 32 ≤ n.toNat / 32 := upper _ (List.mem_map_of_mem added')
    omega

theorem words_ofChanges_append (more : List Change) :
    (ofChanges changes).words ≤ (ofChanges (changes ++ more)).words := by
  apply le_of_forall_lt
  intro place lt
  rw [lt_words_ofChanges_iff] at lt ⊢
  obtain ⟨n, mem, le⟩ := lt
  have mem' : n ∈ added (changes ++ more) := by
    unfold added
    rw [List.filterMap_append]
    exact List.mem_append_left _ mem
  exact ⟨n, mem', le⟩

/-! ## What a set answers -/

theorem contains_ofChanges (n : UInt32) :
    (ofChanges changes).contains n.toNat = true ↔
      Xor (n ∈ added (sinceClear changes)) ((sinceClear changes).count .invert % 2 = 1) := by
  rw [contains_eq_true_iff, inverted_ofChanges, toNat_mem_bits_ofChanges, xor_comm]

theorem isEmpty_ofChanges_iff : (ofChanges changes).isEmpty = true ↔ added (sinceClear changes) = [] := by
  unfold isEmpty
  rw [List.isEmpty_iff, ← List.map_eq_nil_iff (f := UInt32.toNat), List.eq_nil_iff_forall_not_mem,
    List.eq_nil_iff_forall_not_mem]
  simp only [mem_bits_ofChanges]

theorem capacity_ofChanges :
    (ofChanges changes).capacity =
      ((added changes).map (·.toNat / 32)).max?.elim 0 (fun place => 32 * (place + 1)) := by
  unfold NumberSet.capacity
  rw [words_ofChanges]
  cases ((added changes).map (·.toNat / 32)).max? <;> rfl

/-- No change of the words runs into a fault, and they answer as the set does. The set contains what was added since it
was last cleared, or all but that if it was turned round an odd number of times since then. Its capacity is for the
largest number that was ever added. -/
theorem ofChanges_members (changes : List Change) :
    let s := ofChanges changes
    let recent := sinceClear changes
    changes.foldlM Slots.change .empty = .ok s.slots ∧
      (∀ n : UInt32, s.slots.contains n = .ok (s.contains n.toNat) ∧
        (s.contains n.toNat = true ↔ Xor (n ∈ added recent) (recent.count .invert % 2 = 1))) ∧
      (s.slots.numbers = .ok s.bits ∧ s.bits.Pairwise (· < ·) ∧
        ∀ n, n ∈ s.bits ↔ n ∈ (added recent).map UInt32.toNat) ∧
      (s.slots.isEmpty = s.isEmpty ∧ (s.isEmpty = true ↔ added recent = [])) ∧
      (s.slots.capacity = s.capacity ∧
        s.capacity = ((added changes).map (·.toNat / 32)).max?.elim 0 (fun place => 32 * (place + 1)) ∧
        ∀ more, s.capacity ≤ (ofChanges (changes ++ more)).capacity) ∧
      (ofChanges (changes ++ [.invert])).wordList = s.wordList := by
  intro s recent
  refine ⟨kept_ofChanges changes, fun n => ⟨?_, contains_ofChanges changes n⟩,
    ⟨?_, s.ascending, mem_bits_ofChanges changes⟩, ⟨?_, isEmpty_ofChanges_iff changes⟩,
    ⟨?_, capacity_ofChanges changes, fun more => ?_⟩, ?_⟩
  · rw [Slots.contains_eq, toSet_slots]
  · exact Checked.numbers_eq (words_ofChanges_le changes)
  · rw [Slots.isEmpty_eq, toSet_slots]
  · rw [Slots.capacity_eq, toSet_slots]
  · exact Nat.mul_le_mul_left 32 (words_ofChanges_append changes more)
  · rw [ofChanges_concat]
    rfl

/-! ## Sets that were never cleared -/

variable {changes}

theorem sinceClear_of_uncleared (uncleared : .clear ∉ changes) : sinceClear changes = changes := by
  unfold sinceClear
  rw [List.rtakeWhile_eq_self_iff]
  intro ch mem
  exact decide_eq_true (ne_of_mem_of_not_mem mem uncleared)

theorem words_congr {changes' : List Change} (same : ∀ n, n ∈ added changes ↔ n ∈ added changes') :
    (ofChanges changes).words = (ofChanges changes').words := by
  -- Without clearing no word is left over behind the largest number, so the numbers fix how many there are.
  apply Nat.le_antisymm <;> apply le_of_forall_lt <;> intro place <;> simp [lt_words_ofChanges_iff, same]

/-- Two sets that were never cleared are the same value, word for word, if the same numbers were added and both or
neither were turned round in the end. -/
theorem ofChanges_eq_iff {changes changes' : List Change} (uncleared : .clear ∉ changes) (uncleared' : .clear ∉ changes') :
    let s := ofChanges changes
    let s' := ofChanges changes'
    (s = s' ↔ (∀ n, n ∈ added changes ↔ n ∈ added changes') ∧
        changes.count .invert % 2 = changes'.count .invert % 2) ∧
      (s = s' ↔ s.wordList = s'.wordList ∧ s.inverted = s'.inverted) ∧
      (s = s' ↔ changes.foldlM Slots.change .empty = changes'.foldlM Slots.change .empty) := by
  intro s s'
  have bits (n : UInt32) : n.toNat ∈ s.bits ↔ n ∈ added changes := by
    rw [toNat_mem_bits_ofChanges, sinceClear_of_uncleared uncleared]
  have bits' (n : UInt32) : n.toNat ∈ s'.bits ↔ n ∈ added changes' := by
    rw [toNat_mem_bits_ofChanges, sinceClear_of_uncleared uncleared']
  have parity : s.inverted = s'.inverted ↔ changes.count .invert % 2 = changes'.count .invert % 2 := by
    rw [Bool.eq_iff_iff, inverted_ofChanges, inverted_ofChanges, sinceClear_of_uncleared uncleared,
      sinceClear_of_uncleared uncleared']
    omega
  refine ⟨⟨fun same => ⟨fun n => ?_, ?_⟩, ?_⟩, ⟨fun same => ?_, ?_⟩, ?_⟩
  · rw [← bits, ← bits', same]
  · rw [← parity, same]
  · rintro ⟨same, turned⟩
    refine eq_of_mem_iff (fun n => ?_) (words_congr same) (parity.mpr turned)
    simp only [s, s', mem_bits_ofChanges, sinceClear_of_uncleared uncleared, sinceClear_of_uncleared uncleared',
      List.mem_map, same]
  · rw [same]
    exact ⟨rfl, rfl⟩
  · rintro ⟨words, inverted⟩
    apply slots_injective
    unfold slots
    rw [words, inverted]
  · rw [kept_ofChanges, kept_ofChanges]
    constructor
    · intro same
      show Except.ok s.slots = Except.ok s'.slots
      rw [same]
    · intro same
      exact slots_injective (Except.ok.inj same)

theorem ofChanges_eq_iff_reordered :
    let changes : List Change := [.add 70, .invert, .add 5]
    let changes' : List Change := [.add 5, .invert, .invert, .add 5, .add 70, .invert]
    .clear ∉ changes ∧ .clear ∉ changes' ∧ ofChanges changes = ofChanges changes' ∧
      changes.foldlM Slots.change .empty = changes'.foldlM Slots.change .empty := by
  intro changes changes'
  have uncleared : .clear ∉ changes := by decide
  have uncleared' : .clear ∉ changes' := by decide
  obtain ⟨equal, -, words⟩ := ofChanges_eq_iff uncleared uncleared'
  have added (n : UInt32) : n ∈ added changes ↔ n ∈ added changes' := by
    simp [NumberSet.added, changes, changes', Change.added?]
    tauto
  have same := equal.mpr ⟨added, by decide⟩
  exact ⟨uncleared, uncleared', same, words.mp same⟩

-- Clearing leaves the words, so a set without numbers need not be the empty set.
example : (ofChanges [.add 40, .clear]).bits = [] ∧ ofChanges [.add 40, .clear] ≠ empty := by decide

end NumberSet

end SyscallFilter
