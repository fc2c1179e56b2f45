import SyscallFilter.Engine
import SyscallFilter.Proofs.CheckedReading
import SyscallFilter.Proofs.CommandLine
import SyscallFilter.Proofs.Decimal

/-!
# Names and numerals stand for the same calls

A word for a call is read as a numeral if it can be, and else looked up as a name. What a name stands for is also what
the numeral of its number stands for, as long as numerals go up to the end of the table. No number of such a table is cut
off where it is kept in 32 bits.
-/

namespace SyscallFilter

/-! ## Numbers kept in 32 bits -/

/-- What is listed of an entry at a number, if it has a name. -/
def Entry.listed? {α : Type} (e : Entry) (number : α) : Option (α × String × Flags SyscallClass) :=
  e.name.map fun name => (number, name, e.classes)

theorem Entry.map_listed? {α β : Type} (e : Entry) (number : α) (f : α → β) :
    (e.listed? number).map (Prod.map f id) = e.listed? (f number) := by
  unfold listed?
  rw [Option.map_map]
  rfl

namespace Table

/-- The place of a name, kept in 32 bits. -/
def wordOf? (t : Table) (name : String) : Option UInt32 :=
  (t.entries.findIdx? (·.name = some name)).map Nat.toUInt32

/-- The allocated entries, with their places kept in 32 bits. -/
def allocatedWords (t : Table) : List (UInt32 × String × Flags SyscallClass) :=
  t.entries.zipIdx.filterMap fun place => place.1.listed? place.2.toUInt32

variable {t : Table}

theorem wordOf?_eq (small : t.size ≤ 2 ^ 32) (name : String) :
    (t.wordOf? name).map UInt32.toNat = t.numberOf? name := by
  have kept : t.wordOf? name = (t.numberOf? name).map Nat.toUInt32 := rfl
  rw [kept]
  cases found : t.numberOf? name with
  | none => rfl
  | some n =>
    have inside : n < t.size := (numberOf?_eq_some_iff.mp found).1.lt_size
    exact congrArg some (Checked.toNat_toUInt32 (Nat.lt_of_lt_of_le inside small))

theorem allocatedFrom_eq_filterMap (start : Nat) (es : List Entry) :
    allocatedFrom start es = (es.zipIdx start).filterMap fun place => place.1.listed? place.2 := by
  induction es generalizing start with
  | nil => rfl
  | cons e es ih =>
    obtain ⟨name, classes⟩ := e
    rw [List.zipIdx_cons, List.filterMap_cons, ← ih]
    cases name <;> rfl

theorem allocatedWords_eq (small : t.size ≤ 2 ^ 32) :
    t.allocatedWords.map (Prod.map UInt32.toNat id) = t.allocated := by
  unfold allocatedWords allocated
  rw [List.map_filterMap, allocatedFrom_eq_filterMap]
  refine List.filterMap_congr fun ⟨e, n⟩ mem => ?_
  have inside : n < t.size := (List.snd_lt_add_of_mem_zipIdx mem).trans_eq (Nat.zero_add _)
  rw [Entry.map_listed?, Checked.toNat_toUInt32 (Nat.lt_of_lt_of_le inside small)]

end Table

/-! ## Words for calls -/

namespace CommandLine

variable {t : Table} {word called : String} {n : Nat}

theorem resolveCheck_cases (resolved : resolveCheck t word = some (called, n)) :
    n ≤ 2147483647 ∧ called = (t.nameOf? n).getD ("syscall_" ++ toString n) ∨
      called = word ∧ t.numberOf? word = some n := by
  by_cases name : NoNumeral word
  · rw [resolveCheck_of_name t name, Option.map_eq_some_iff] at resolved
    obtain ⟨_, found, pair⟩ := resolved
    obtain ⟨rfl, rfl⟩ := Prod.mk.inj pair
    exact .inr ⟨rfl, found⟩
  · obtain ⟨v, spells, le⟩ := not_not.mp name
    rw [resolveCheck_of_spells t spells le, Option.some.injEq] at resolved
    obtain ⟨rfl, rfl⟩ := Prod.mk.inj resolved
    exact .inl ⟨le, rfl⟩

theorem resolveCheck_toString_iff (resolved : resolveCheck t word = some (called, n)) :
    resolveCheck t (toString n) = some (called, n) ↔ n ≤ 2147483647 ∨ word = toString n := by
  constructor
  · intro again
    -- A number past the limit is that of a name, and its numeral is not read: it can only be that very name.
    rcases resolveCheck_cases resolved with ⟨le, -⟩ | ⟨rfl, -⟩
    · exact .inl le
    · rcases resolveCheck_cases again with ⟨le, -⟩ | ⟨same, -⟩
      · exact .inl le
      · exact .inr same
  · rintro (le | rfl)
    · have numeral := resolveCheck_of_spells t (Numeral.spells_toString n) le
      rcases resolveCheck_cases resolved with ⟨-, rfl⟩ | ⟨rfl, found⟩
      · exact numeral
      · have named : t.nameOf? n = some called :=
          Table.nameOf?_eq_some_iff.mpr (Table.numberOf?_eq_some_iff.mp found).1
        rw [numeral, named, Option.getD_some]
    · exact resolved

theorem resolveCheck_le (small : t.size ≤ 2 ^ 31) (resolved : resolveCheck t word = some (called, n)) :
    n ≤ 2147483647 := by
  rcases resolveCheck_cases resolved with ⟨le, -⟩ | ⟨-, found⟩
  · exact le
  · have inside : n < t.size := (Table.numberOf?_eq_some_iff.mp found).1.lt_size
    omega

end CommandLine

/-! ## Words for calls on an engine -/

/-- The personality that calls are tried in. -/
def Personalities.first (p : Personalities) : Table := p.tables.head p.nonempty

theorem Personalities.get?_zero (p : Personalities) : p.get? 0 = some p.first := by
  unfold get? first
  rw [← List.head?_eq_getElem?, List.head?_eq_some_head]

/-- What a word stands for on an engine: a name, and a number of 64 bits. -/
def Engine.callOf? (e : Engine) (word : String) : Option (String × UInt64) := do
  let t ← e.personalities.get? 0
  match Numeral.wordUpTo 2147483647 word with
  | some w => some ((t.nameOf? w.toNat).getD ("syscall_" ++ toString w), w.toUInt64)
  | none => (t.wordOf? word).map fun w => (word, w.toUInt64)

theorem Engine.callOf?_eq (e : Engine) (small : e.personalities.first.size ≤ 2 ^ 32) (word : String) :
    (e.callOf? word).map (Prod.map id UInt64.toNat) = CommandLine.resolveCheck e.personalities.first word := by
  have read : Numeral.number? word = (Numeral.wordUpTo 2147483647 word).map UInt32.toNat :=
    (Numeral.wordUpTo_eq 2147483647 word).symm
  unfold callOf? CommandLine.resolveCheck
  rw [e.personalities.get?_zero, Option.bind_eq_bind, Option.bind_some, read, ← Table.wordOf?_eq small]
  cases Numeral.wordUpTo 2147483647 word with
  | some w => rfl
  | none =>
    simp only [Option.map_none, Option.map_map]
    rfl

namespace CommandLine

/-- The number of a name is the least of its numbers, and the first in the list of allocated entries. Every numeral
within the limit stands for a call, and any other word for the number of the name. If the table ends where numerals do,
the numeral of what a word stands for stands for the same, and no number is cut off: an engine with the table in front
gives the same answers in 64 bits. -/
theorem resolveCheck_agrees (t : Table) :
    (∀ name n, t.numberOf? name = some n ↔ IsLeast {m | t.Allocates m name} n) ∧
    (∀ name, t.numberOf? name = none ↔ ∀ e ∈ t.entries, e.name ≠ some name) ∧
    (∀ name, t.numberOf? name = (t.allocated.find? (·.2.1 = name)).map (·.1)) ∧
    (∀ n name classes, (n, name, classes) ∈ t.allocated ↔ t.entries[n]? = some ⟨some name, classes⟩) ∧
    t.allocated.Pairwise (·.1 < ·.1) ∧
    (∀ word n, Numeral.Spells word n → n ≤ 2147483647 →
      (∀ name, t.Allocates n name → resolveCheck t word = some (name, n)) ∧
      ((∀ name, ¬t.Allocates n name) → resolveCheck t word = some ("syscall_" ++ toString n, n))) ∧
    (∀ word, NoNumeral word → resolveCheck t word = (t.numberOf? word).map (word, ·)) ∧
    (t.size ≤ 2 ^ 31 →
      (∀ word called n, resolveCheck t word = some (called, n) → resolveCheck t (toString n) = some (called, n)) ∧
      (∀ name, (t.wordOf? name).map UInt32.toNat = t.numberOf? name) ∧
      t.allocatedWords.map (Prod.map UInt32.toNat id) = t.allocated ∧
      ∀ e : Engine, e.personalities.first = t → ∀ word,
        (e.callOf? word).map (Prod.map id UInt64.toNat) = resolveCheck t word) := by
  refine ⟨fun name n => Table.numberOf?_eq_some_iff, fun name => Table.numberOf?_eq_none_iff, t.numberOf?_eq_find?,
    t.mem_allocated, Table.pairwise_allocatedFrom 0 t.entries, fun word n spells le => ?_,
    fun word => resolveCheck_of_name t, fun small => ?_⟩
  · have read := resolveCheck_of_spells t spells le
    constructor
    · intro name allocates
      rw [read, Table.nameOf?_eq_some_iff.mpr allocates, Option.getD_some]
    · intro unallocated
      rw [read, Table.nameOf?_eq_none_iff.mpr unallocated, Option.getD_none]
  · have fits : t.size ≤ 2 ^ 32 := Nat.le_trans small (by decide)
    refine ⟨fun word called n resolved => ?_, Table.wordOf?_eq fits, Table.allocatedWords_eq fits, ?_⟩
    · exact (resolveCheck_toString_iff resolved).mpr (.inl (resolveCheck_le small resolved))
    · rintro e rfl word
      exact e.callOf?_eq fits word

theorem resolveCheck_agrees_shared_name :
    let t : Table := ⟨"demo", [⟨none, .empty⟩, ⟨some "read", .empty⟩, ⟨some "read", .empty⟩, ⟨some "2", .empty⟩]⟩
    let e : Engine := ⟨⟨[t], List.cons_ne_nil _ _⟩, [], .empty, .empty, []⟩
    NoNumeral "read" ∧ resolveCheck t "read" = some ("read", 1) ∧
      t.size ≤ 2 ^ 31 ∧ resolveCheck t (toString 1) = some ("read", 1) ∧
      Numeral.Spells "002" 2 ∧ 2 ≤ 2147483647 ∧ t.Allocates 2 "read" ∧ resolveCheck t "002" = some ("read", 2) ∧
      Numeral.Spells "0" 0 ∧ 0 ≤ 2147483647 ∧ (∀ name, ¬t.Allocates 0 name) ∧
      resolveCheck t "0" = some ("syscall_0", 0) ∧
      e.personalities.first = t ∧ (e.callOf? "2").map (Prod.map id UInt64.toNat) = some ("read", 2) := by
  -- A number without a name, a name with two numbers, and a name that is a numeral.
  intro t e
  obtain ⟨-, -, -, -, -, numerals, names, kept⟩ := resolveCheck_agrees t
  have small : t.size ≤ 2 ^ 31 := by decide
  obtain ⟨again, -, -, onEngine⟩ := kept small
  have noNumeral : NoNumeral "read" := by decide +kernel
  have resolved : resolveCheck t "read" = some ("read", 1) := names "read" noNumeral
  have padded : Numeral.Spells "002" 2 := (Numeral.parse?_eq_some_iff _ _).mp (by decide +kernel)
  have zero : Numeral.Spells "0" 0 := (Numeral.parse?_eq_some_iff _ _).mp (by decide +kernel)
  have second : t.Allocates 2 "read" := by decide
  have unallocated : ∀ name, ¬t.Allocates 0 name := Table.nameOf?_eq_none_iff.mp rfl
  refine ⟨noNumeral, resolved, small, again _ _ _ resolved, padded, by decide, second, ?_, zero, by decide, unallocated, ?_,
    rfl, ?_⟩
  · exact (numerals "002" 2 padded (by decide)).1 "read" second
  · exact (numerals "0" 0 zero (by decide)).2 unallocated
  · rw [onEngine e rfl]
    decide +kernel

end CommandLine

end SyscallFilter
