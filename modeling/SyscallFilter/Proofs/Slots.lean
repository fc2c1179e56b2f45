import Mathlib.Algebra.Group.Nat.Defs
import SyscallFilter.Proofs.NumberSet

/-!
# Sets kept in words

`Checked` is the monad of operations that are not defined for all arguments: a place has to be in its list, a shift has
to be shorter than its word, a result has to fit. A set is kept in words of 32 bits, and what is done to the words is
what is done to the set, with no fault on the way.
-/

namespace SyscallFilter

/-- What an operation can run into that is not defined for all its arguments. -/
inductive Fault where
  /-- A place that is not in its list. -/
  | place
  /-- A shift by the width of the word or more. -/
  | shift
  /-- A number below zero, or one that takes more than 32 bits. -/
  | overflow
  /-- A remainder by zero. -/
  | zero
  /-- A cut inside a character. -/
  | boundary
  | assertion
  deriving DecidableEq, Repr

abbrev Checked := Except Fault

namespace Checked

variable {α β : Type}

@[simp]
theorem ok_bind (a : α) (f : α → Checked β) : (Except.ok a : Checked α) >>= f = f a := rfl

theorem mapM_eq_ok {f : α → Checked β} {g : α → β} {xs : List α} (each : ∀ x ∈ xs, f x = .ok (g x)) :
    xs.mapM f = .ok (xs.map g) := by
  induction xs with
  | nil => rfl
  | cons x rest ih =>
    rw [List.mapM_cons, each x List.mem_cons_self, ih fun y mem => each y (List.mem_cons_of_mem x mem)]
    rfl

theorem foldlM_eq_ok {f : β → α → Checked β} {g : β → α → β} {xs : List α} (b : β)
    (each : ∀ b, ∀ x ∈ xs, f b x = .ok (g b x)) : xs.foldlM f b = .ok (xs.foldl g b) := by
  induction xs generalizing b with
  | nil => rfl
  | cons x rest ih =>
    rw [List.foldlM_cons, each b x List.mem_cons_self]
    exact ih (g b x) fun b y mem => each b y (List.mem_cons_of_mem x mem)

def get (xs : List α) (place : Nat) : Checked α :=
  match xs[place]? with
  | some x => .ok x
  | none => .error .place

theorem get_eq_ok {xs : List α} {place : Nat} (inside : place < xs.length) : get xs place = .ok xs[place] := by
  unfold get
  rw [List.getElem?_eq_getElem inside]

def sub (m n : Nat) : Checked Nat := if n ≤ m then .ok (m - n) else .error .overflow

theorem sub_eq_ok {m n : Nat} (le : n ≤ m) : sub m n = .ok (m - n) := if_pos le

def rem (m n : Nat) : Checked Nat := if n = 0 then .error .zero else .ok (m % n)

theorem rem_eq_ok {m n : Nat} (nonzero : n ≠ 0) : rem m n = .ok (m % n) := if_neg nonzero

/-- A number in a word of 32 bits. -/
def fit (n : Nat) : Checked Nat := if n < 2 ^ 32 then .ok n else .error .overflow

theorem fit_eq_ok {n : Nat} (lt : n < 2 ^ 32) : fit n = .ok n := if_pos lt

/-- Goes on if something is true, as it should be. -/
def assert (truth : Bool) : Checked Unit := if truth then .ok () else .error .assertion

theorem assert_eq_ok {truth : Bool} (holds : truth = true) : assert truth = .ok () := if_pos holds

/-- One bit of a word. -/
def bit (b : Nat) : Checked (BitVec 32) := if b < 32 then .ok (1#32 <<< b) else .error .shift

theorem bit_eq_ok {b : Nat} (lt : b < 32) : bit b = .ok (.twoPow 32 b) := if_pos lt

end Checked

open Checked

/-- A set as it is kept. Bit `b` of the word at place `i` is for the number `32 * i + b`. -/
structure Slots where
  words : List (BitVec 32)
  inverted : Bool
  deriving DecidableEq

namespace Slots

def empty : Slots := ⟨[], false⟩

/-- Sets the bit of a number, with as many words as that takes. -/
def add (m : Slots) (n : UInt32) : Checked Slots := do
  let place := n.toNat / 32
  let words := m.words.rightpad (place + 1) 0
  let word ← get words place
  let mask ← bit (n.toNat % 32)
  .ok { m with words := words.set place (word ||| mask) }

/-- A number beyond the last word has no bit. -/
def contains (m : Slots) (n : UInt32) : Checked Bool :=
  match m.words[n.toNat / 32]? with
  | none => .ok m.inverted
  | some word => do
    let mask ← bit (n.toNat % 32)
    .ok (word &&& mask != 0 ^^ m.inverted)

def invert (m : Slots) : Slots := { m with inverted := !m.inverted }

/-- No bit and no inversion; the words stay. -/
def clear (m : Slots) : Slots := ⟨m.words.map fun _ => 0, false⟩

def isEmpty (m : Slots) : Bool := m.words.all (· = 0)

def capacity (m : Slots) : Nat := m.words.length * 32

/-- The number of one bit, if it is set. -/
def numberAt (word : BitVec 32) (place b : Nat) : Checked (Option Nat) := do
  let mask ← bit b
  if word &&& mask = 0 then .ok none
  else do
    let start ← fit (place * 32)
    let n ← fit (start + b)
    .ok (some n)

/-- The numbers of some words, of which the first is at `place`. -/
def numbersFrom : Nat → List (BitVec 32) → Checked (List Nat)
  | _, [] => .ok []
  | place, word :: rest => do
    let here ← (List.range 32).mapM (numberAt word place)
    let later ← numbersFrom (place + 1) rest
    .ok (here.filterMap id ++ later)

/-- The numbers whose bit is set, in order. -/
def numbers (m : Slots) : Checked (List Nat) := numbersFrom 0 m.words

/-! ## What words mean -/

def has (m : Slots) (n : Nat) : Bool := m.words[n / 32]?.any (·.getLsbD (n % 32))

theorem lt_of_has {m : Slots} {n : Nat} (has : m.has n = true) : n / 32 < m.words.length := by
  unfold Slots.has at has
  by_contra outside
  rw [List.getElem?_eq_none (Nat.le_of_not_lt outside)] at has
  cases has

/-- The set that is kept in some words. -/
def toSet (m : Slots) : NumberSet where
  bits := (List.range (32 * m.words.length)).filter m.has
  words := m.words.length
  inverted := m.inverted
  ascending := List.pairwise_lt_range.filter _
  fits _ mem := lt_of_has (List.mem_filter.mp mem).2

@[simp]
theorem mem_toSet_iff (m : Slots) (n : Nat) : n ∈ m.toSet.bits ↔ m.has n = true := by
  have bounded (has : m.has n = true) : n < 32 * m.words.length := by
    have inside := lt_of_has has
    omega
  show n ∈ (List.range _).filter m.has ↔ _
  rw [List.mem_filter, List.mem_range]
  exact and_iff_right_of_imp bounded

theorem has_word (m : Slots) {place b : Nat} (inside : place < m.words.length) (lt : b < 32) :
    m.has (32 * place + b) = m.words[place].getLsbD b := by
  have parts : (32 * place + b) / 32 = place ∧ (32 * place + b) % 32 = b := by omega
  unfold has
  rw [parts.1, parts.2, List.getElem?_eq_getElem inside, Option.any_some]

theorem toSet_injective {m m' : Slots} (same : m.toSet = m'.toSet) : m = m' := by
  have length : m.words.length = m'.words.length := congrArg NumberSet.words same
  have inverted : m.inverted = m'.inverted := congrArg NumberSet.inverted same
  have has (n : Nat) : m.has n = m'.has n := by
    rw [Bool.eq_iff_iff, ← mem_toSet_iff, ← mem_toSet_iff, same]
  have words : m.words = m'.words := by
    apply List.ext_getElem length
    intro place inside inside'
    apply BitVec.eq_of_getLsbD_eq
    intro b lt
    rw [← m.has_word inside lt, ← m'.has_word inside' lt, has]
  cases m
  cases m'
  simp_all

theorem and_twoPow_ne_zero (word : BitVec 32) {b : Nat} (lt : b < 32) :
    (word &&& BitVec.twoPow 32 b != 0#32) = word.getLsbD b := by
  have nonzero : BitVec.twoPow 32 b ≠ 0#32 := by
    intro zero
    have set := congrArg (·.getLsbD b) zero
    simp [lt] at set
  rw [BitVec.and_twoPow]
  cases word.getLsbD b <;> simp [nonzero]

theorem toSet_eq {m : Slots} {s : NumberSet} (has : ∀ n, m.has n = true ↔ n ∈ s.bits)
    (words : m.words.length = s.words) (inverted : m.inverted = s.inverted) : m.toSet = s :=
  NumberSet.eq_of_mem_iff (fun n => (m.mem_toSet_iff n).trans (has n)) words inverted

/-! ## Operations -/

theorem has_rightpad (m : Slots) (count n : Nat) : has { m with words := m.words.rightpad count 0 } n = m.has n := by
  unfold has List.rightpad
  dsimp only
  rcases Nat.lt_or_ge (n / 32) m.words.length with inside | outside
  · rw [List.getElem?_append_left inside]
  · rw [List.getElem?_append_right outside, List.getElem?_eq_none outside, List.getElem?_replicate]
    split <;> simp

theorem has_set (m : Slots) {place : Nat} (inside : place < m.words.length) {b : Nat} (lt : b < 32) (n : Nat) :
    has { m with words := m.words.set place (m.words[place] ||| .twoPow 32 b) } n =
      (decide (n = 32 * place + b) || m.has n) := by
  unfold has
  dsimp only
  rw [List.getElem?_set]
  split
  next here =>
    subst here
    have same : decide (n = 32 * (n / 32) + b) = decide (b = n % 32) := by
      rw [decide_eq_decide]
      omega
    rw [List.getElem?_eq_getElem inside, same]
    simp [lt, Bool.or_comm]
  next elsewhere =>
    have other : n ≠ 32 * place + b := by omega
    rw [decide_eq_false other, Bool.false_or]

theorem add_toSet (m : Slots) (n : UInt32) : (m.add n).map toSet = .ok (m.toSet.add n.toNat) := by
  have length : (m.words.rightpad (n.toNat / 32 + 1) 0).length = max m.words.length (n.toNat / 32 + 1) := by
    rw [List.length_rightpad, Nat.max_comm]
  have inside : n.toNat / 32 < (m.words.rightpad (n.toNat / 32 + 1) 0).length := by omega
  have lt : n.toNat % 32 < 32 := Nat.mod_lt _ (by decide)
  unfold add
  simp only [get_eq_ok inside, bit_eq_ok lt, ok_bind, Except.map]
  congr 1
  apply toSet_eq
  · intro k
    have set := has_set { m with words := m.words.rightpad (n.toNat / 32 + 1) 0 } inside lt k
    rw [has_rightpad, Nat.div_add_mod] at set
    rw [set, Bool.or_eq_true, decide_eq_true_iff, NumberSet.mem_bits_add, mem_toSet_iff]
  · rw [List.length_set, length]
    rfl
  · rfl

theorem contains_eq (m : Slots) (n : UInt32) : m.contains n = .ok (m.toSet.contains n.toNat) := by
  have bits : m.toSet.bits.contains n.toNat = m.has n.toNat := by
    rw [Bool.eq_iff_iff, List.contains_iff_mem, mem_toSet_iff]
  have lt : n.toNat % 32 < 32 := Nat.mod_lt _ (by decide)
  unfold contains NumberSet.contains
  rw [bits]
  unfold has
  cases m.words[n.toNat / 32]? with
  | none => simp only [Option.any_none, Bool.false_xor]; rfl
  | some word =>
    simp only [bit_eq_ok lt, ok_bind, Option.any_some]
    rw [← and_twoPow_ne_zero word lt]
    rfl

theorem toSet_clear (m : Slots) : m.clear.toSet = m.toSet.clear := by
  apply toSet_eq
  · intro n
    unfold has clear
    rw [List.getElem?_map]
    cases m.words[n / 32]? <;> simp [NumberSet.clear]
  · exact List.length_map _
  · rfl

theorem isEmpty_eq (m : Slots) : m.isEmpty = m.toSet.isEmpty := by
  rw [Bool.eq_iff_iff]
  unfold isEmpty NumberSet.isEmpty
  rw [List.isEmpty_iff, List.eq_nil_iff_forall_not_mem, List.all_eq_true]
  simp only [mem_toSet_iff, decide_eq_true_eq]
  constructor
  · intro zero n
    unfold has
    cases word : m.words[n / 32]? with
    | none => simp
    | some w => simp [zero w (List.mem_of_getElem? word)]
  · intro none w mem
    obtain ⟨place, inside, rfl⟩ := List.getElem_of_mem mem
    apply BitVec.eq_of_getLsbD_eq
    intro b lt
    rw [← m.has_word inside lt, Bool.eq_false_iff.mpr (none _)]
    simp

theorem capacity_eq (m : Slots) : m.capacity = m.toSet.capacity := Nat.mul_comm _ _

theorem numberAt_eq (word : BitVec 32) {place b : Nat} (fits : place < 2 ^ 27) (lt : b < 32) :
    numberAt word place b = .ok (if word.getLsbD b then some (32 * place + b) else none) := by
  have start : place * 32 < 2 ^ 32 := by omega
  have number : place * 32 + b < 2 ^ 32 := by omega
  unfold numberAt
  rw [← and_twoPow_ne_zero word lt]
  simp only [bit_eq_ok lt, ok_bind, fit_eq_ok start, fit_eq_ok number]
  by_cases none : word &&& BitVec.twoPow 32 b = 0#32
  · simp [none]
  · simp [none, Nat.mul_comm]

theorem mapM_numberAt (word : BitVec 32) {place : Nat} (fits : place < 2 ^ 27) :
    ∃ here, (List.range 32).mapM (numberAt word place) = .ok here ∧ (here.filterMap id).Pairwise (· < ·) ∧
      ∀ n, n ∈ here.filterMap id ↔ n / 32 = place ∧ word.getLsbD (n % 32) = true := by
  refine ⟨_, mapM_eq_ok fun b mem => numberAt_eq word fits (List.mem_range.mp mem), ?_, ?_⟩
  · rw [List.filterMap_map, List.pairwise_filterMap]
    refine List.pairwise_lt_range.imp fun {b b'} before n number n' number' => ?_
    simp only [Function.comp_apply, id, Option.ite_none_right_eq_some, Option.some.injEq] at number number'
    omega
  · intro n
    simp only [List.filterMap_map, List.mem_filterMap, List.mem_range, Function.comp_apply, id,
      Option.ite_none_right_eq_some, Option.some.injEq]
    constructor
    · rintro ⟨b, lt, set, rfl⟩
      have parts : (32 * place + b) / 32 = place ∧ (32 * place + b) % 32 = b := by omega
      exact ⟨parts.1, parts.2.symm ▸ set⟩
    · rintro ⟨rfl, set⟩
      exact ⟨n % 32, Nat.mod_lt n (by decide), set, Nat.div_add_mod n 32⟩

theorem numbersFrom_eq (words : List (BitVec 32)) {place : Nat} (fits : place + words.length ≤ 2 ^ 27) :
    ∃ ns, numbersFrom place words = .ok ns ∧ ns.Pairwise (· < ·) ∧
      ∀ n, n ∈ ns ↔ place ≤ n / 32 ∧ words[n / 32 - place]?.any (·.getLsbD (n % 32)) = true := by
  induction words generalizing place with
  | nil => exact ⟨[], rfl, .nil, fun n => by simp⟩
  | cons word rest ih =>
    rw [List.length_cons] at fits
    obtain ⟨here, read, ascending, mem⟩ := mapM_numberAt word (by omega : place < 2 ^ 27)
    obtain ⟨later, readLater, ascendingLater, memLater⟩ := ih (by omega : place + 1 + rest.length ≤ 2 ^ 27)
    refine ⟨here.filterMap id ++ later, ?_, ?_, ?_⟩
    · simp only [numbersFrom, read, readLater, ok_bind]
    · refine List.pairwise_append.mpr ⟨ascending, ascendingLater, fun n first n' second => ?_⟩
      have before := ((mem n).mp first).1
      have behind := ((memLater n').mp second).1
      omega
    · intro n
      rw [List.mem_append, mem, memLater]
      rcases Nat.lt_trichotomy (n / 32) place with h | h | h
      · constructor <;> omega
      · have first : n / 32 - place = 0 := by omega
        rw [first]
        simp [h]
      · have shift : n / 32 - place = n / 32 - (place + 1) + 1 := by omega
        rw [shift, List.getElem?_cons_succ]
        have other : n / 32 ≠ place := by omega
        have behind : place + 1 ≤ n / 32 := h
        simp only [other, behind, Nat.le_of_lt h, false_and, false_or, true_and]

theorem numbers_eq (m : Slots) (fits : m.words.length ≤ 2 ^ 27) : m.numbers = .ok m.toSet.bits := by
  have start : 0 + m.words.length ≤ 2 ^ 27 := by omega
  obtain ⟨ns, read, ascending, mem⟩ := numbersFrom_eq m.words start
  have same : ns = m.toSet.bits := by
    refine ascending.eq_of_mem_iff m.toSet.ascending fun n => ?_
    rw [mem, mem_toSet_iff, Nat.sub_zero]
    exact and_iff_right (Nat.zero_le _)
  unfold numbers
  rw [read, same]

end Slots

namespace NumberSet

/-- The words that a set is kept in. -/
def slots (s : NumberSet) : Slots := ⟨s.wordList.map (.ofNat 32), s.inverted⟩

theorem testBit_foldl_or (ns : List Nat) (w b : Nat) :
    (ns.foldl (fun w n => w ||| 1 <<< (n % 32)) w).testBit b = (w.testBit b || ns.any (· % 32 = b)) := by
  induction ns generalizing w with
  | nil => simp
  | cons n rest ih =>
    rw [List.foldl_cons, ih, Nat.testBit_or, List.any_cons, Bool.or_assoc, Nat.one_shiftLeft, Nat.testBit_two_pow]

theorem testBit_word (s : NumberSet) (n : Nat) : (s.word (n / 32)).testBit (n % 32) = true ↔ n ∈ s.bits := by
  unfold word
  rw [testBit_foldl_or, Nat.zero_testBit, Bool.false_or, List.any_eq_true]
  simp only [List.mem_filter, decide_eq_true_eq]
  constructor
  · rintro ⟨k, ⟨mem, place⟩, bit⟩
    have same : k = n := by omega
    exact same ▸ mem
  · intro mem
    exact ⟨n, ⟨mem, rfl⟩, rfl⟩

theorem toSet_slots (s : NumberSet) : s.slots.toSet = s := by
  have length : s.slots.words.length = s.words := by
    simp [slots, wordList]
  refine Slots.toSet_eq (fun n => ?_) length rfl
  unfold Slots.has
  rcases Nat.lt_or_ge (n / 32) s.words with inside | outside
  · have word : s.slots.words[n / 32]? = some (.ofNat 32 (s.word (n / 32))) := by
      simp [slots, wordList, inside]
    have lt : n % 32 < 32 := Nat.mod_lt n (by decide)
    rw [word, Option.any_some, BitVec.getLsbD_ofNat, decide_eq_true lt, Bool.true_and, testBit_word]
  · have absent : n ∉ s.bits := fun mem => absurd (s.fits n mem) (Nat.not_lt.mpr outside)
    rw [List.getElem?_eq_none (length ▸ outside)]
    simp [absent]

theorem slots_toSet (m : Slots) : m.toSet.slots = m := Slots.toSet_injective (toSet_slots _)

theorem slots_injective {s t : NumberSet} (same : s.slots = t.slots) : s = t := by
  rw [← s.toSet_slots, same, toSet_slots]

theorem add_slots (s : NumberSet) (n : UInt32) : s.slots.add n = .ok (s.add n.toNat).slots := by
  have added := s.slots.add_toSet n
  rw [toSet_slots] at added
  cases done : s.slots.add n with
  | error fault => simp [done, Except.map] at added
  | ok m =>
    rw [done] at added
    rw [← Except.ok.inj added, slots_toSet]

theorem clear_slots (s : NumberSet) : s.slots.clear = s.clear.slots := by
  apply Slots.toSet_injective
  rw [Slots.toSet_clear, toSet_slots, toSet_slots]

end NumberSet

/-! ## Sets through their words -/

namespace Checked

def add (s : NumberSet) (n : UInt32) : Checked NumberSet := (s.slots.add n).map Slots.toSet

theorem add_eq (s : NumberSet) (n : UInt32) : add s n = .ok (s.add n.toNat) := by
  unfold add
  rw [Slots.add_toSet, s.toSet_slots]

def contains (s : NumberSet) (n : UInt32) : Checked Bool := s.slots.contains n

theorem contains_eq (s : NumberSet) (n : UInt32) : contains s n = .ok (s.contains n.toNat) := by
  unfold contains
  rw [Slots.contains_eq, s.toSet_slots]

def numbers (s : NumberSet) : Checked (List Nat) := s.slots.numbers

theorem numbers_eq {s : NumberSet} (fits : s.words ≤ 2 ^ 27) : numbers s = .ok s.bits := by
  have words : s.slots.words.length = s.words := congrArg NumberSet.words s.toSet_slots
  unfold numbers
  rw [Slots.numbers_eq _ (words ▸ fits), s.toSet_slots]

end Checked

end SyscallFilter
