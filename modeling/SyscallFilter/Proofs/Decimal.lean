import Mathlib.Data.List.Induction
import Mathlib.Data.Nat.Digits.Defs
import SyscallFilter.Proofs.Text

/-!
# Numerals read into words of 32 bits

Digits are read from the left into a word, and a numeral is refused as soon as its number takes more than 32 bits. What
is read is the sum of the digits, each times the power of ten of its place, however long the numeral is.
-/

namespace SyscallFilter.Numeral

/-! ## The value of digits -/

/-- The sum of the digits, each times ten to the power of its place, counted from the right. -/
def decimal (digits : List Char) : Nat := Nat.ofDigits 10 (digits.reverse.map digitValue)

theorem decimal_concat (digits : List Char) (c : Char) :
    decimal (digits ++ [c]) = digitValue c + 10 * decimal digits := by
  unfold decimal
  rw [List.reverse_concat, List.map_cons, Nat.ofDigits_cons]

theorem ofDigitChars_eq_decimal (digits : List Char) : Nat.ofDigitChars 10 digits 0 = decimal digits := by
  induction digits using List.reverseRecOn with
  | nil => rfl
  | append_singleton digits c ih =>
    rw [decimal_concat, Nat.ofDigitChars_append, ih, Nat.ofDigitChars_cons, Nat.ofDigitChars_nil, Nat.add_comm]
    rfl

theorem spells_iff_decimal (text : String) (n : Nat) :
    Spells text n ↔ text ≠ "" ∧ (∀ c ∈ text.toList, c.isDigit) ∧ decimal text.toList = n := by
  unfold Spells
  rw [ofDigitChars_eq_decimal, ne_eq, String.toList_eq_nil_iff]

theorem spells_zeros {text : String} (nonempty : text ≠ "") (zeros n : Nat) :
    Spells (String.ofList (List.replicate zeros '0') ++ text) n ↔ Spells text n := by
  have chars : (String.ofList (List.replicate zeros '0') ++ text).toList = List.replicate zeros '0' ++ text.toList := by
    simp
  have value : Nat.ofDigitChars 10 (List.replicate zeros '0' ++ text.toList) 0 = Nat.ofDigitChars 10 text.toList 0 := by
    rw [Nat.ofDigitChars_append, Nat.ofDigitChars_replicate_zero, Nat.mul_zero]
  unfold Spells
  rw [chars, value]
  simp [nonempty, or_imp, forall_and]

/-! ## Words -/

/-- The product, if it takes no more than 32 bits. -/
def times? (a b : UInt32) : Option UInt32 := if a.toNat * b.toNat < 2 ^ 32 then some (a * b) else none

/-- The sum, if it takes no more than 32 bits. -/
def plus? (a b : UInt32) : Option UInt32 := if a.toNat + b.toNat < 2 ^ 32 then some (a + b) else none

/-- The number with one more digit behind it. -/
def push? (w : UInt32) (c : Char) : Option UInt32 := (times? w 10).bind (plus? · (digitValue c).toUInt32)

/-- The number that a text of digits spells, as a word. -/
def word? (s : String) : Option UInt32 :=
  if s.toList ≠ [] && s.toList.all Char.isDigit then s.toList.foldlM push? 0 else none

def wordUpTo (max : UInt32) (s : String) : Option UInt32 := (word? s).filter (· ≤ max)

/-! ## What words hold -/

/-- A number that takes no more than 32 bits. -/
def fitting? (n : Nat) : Option Nat := if n < 2 ^ 32 then some n else none

theorem fitting?_eq_some_iff (n m : Nat) : fitting? n = some m ↔ n < 2 ^ 32 ∧ n = m := by
  unfold fitting?
  rw [Option.ite_none_right_eq_some, Option.some.injEq]

theorem fitting?_eq_none_iff (n : Nat) : fitting? n = none ↔ 2 ^ 32 ≤ n := by
  unfold fitting?
  rw [ite_eq_right_iff, ← Nat.not_lt]
  exact ⟨fun large fits => absurd (large fits) nofun, fun large fits => absurd fits large⟩

theorem times?_eq (a b : UInt32) : (times? a b).map UInt32.toNat = fitting? (a.toNat * b.toNat) := by
  unfold times? fitting?
  split
  next fits => rw [Option.map_some, UInt32.toNat_mul, Nat.mod_eq_of_lt fits]
  next => rfl

theorem plus?_eq (a b : UInt32) : (plus? a b).map UInt32.toNat = fitting? (a.toNat + b.toNat) := by
  unfold plus? fitting?
  split
  next fits => rw [Option.map_some, UInt32.toNat_add, Nat.mod_eq_of_lt fits]
  next => rfl

theorem digitValue_lt_ten {c : Char} (digit : c.isDigit = true) : digitValue c < 10 := by
  have last : c.toNat ≤ 57 := by
    unfold Char.isDigit at digit
    rw [Bool.and_eq_true, decide_eq_true_iff, decide_eq_true_iff] at digit
    exact UInt32.le_iff_toNat_le.mp digit.2
  unfold digitValue
  have zero : '0'.toNat = 48 := rfl
  omega

theorem push?_eq (w : UInt32) {c : Char} (digit : c.isDigit = true) :
    (push? w c).map UInt32.toNat = fitting? (10 * w.toNat + digitValue c) := by
  have small : (digitValue c).toUInt32.toNat = digitValue c :=
    Nat.mod_eq_of_lt (Nat.lt_trans (digitValue_lt_ten digit) (by decide))
  have product : (times? w 10).map UInt32.toNat = fitting? (10 * w.toNat) := by
    rw [times?_eq, Nat.mul_comm]
    rfl
  unfold push?
  cases shifted : times? w 10 with
  | none =>
    rw [shifted, Option.map_none, eq_comm, fitting?_eq_none_iff] at product
    exact ((fitting?_eq_none_iff _).mpr (Nat.le_add_right_of_le product)).symm
  | some v =>
    rw [shifted, Option.map_some, eq_comm, fitting?_eq_some_iff] at product
    rw [Option.bind_some, plus?_eq, small, product.2]

theorem le_ofDigitChars (digits : List Char) (n : Nat) : n ≤ Nat.ofDigitChars 10 digits n := by
  rw [Nat.ofDigitChars_eq_ofDigitChars_zero]
  have power : 1 ≤ 10 ^ digits.length := Nat.one_le_pow _ _ (by decide)
  calc n ≤ 10 ^ digits.length * n := Nat.le_mul_of_pos_left n power
    _ ≤ 10 ^ digits.length * n + Nat.ofDigitChars 10 digits 0 := Nat.le_add_right _ _

theorem foldlM_push? (w : UInt32) {digits : List Char} (all : ∀ c ∈ digits, c.isDigit = true) :
    (digits.foldlM push? w).map UInt32.toNat = fitting? (Nat.ofDigitChars 10 digits w.toNat) := by
  induction digits generalizing w with
  | nil => exact ((fitting?_eq_some_iff _ _).mpr ⟨w.toNat_lt, rfl⟩).symm
  | cons c digits ih =>
    obtain ⟨digit, later⟩ := List.forall_mem_cons.mp all
    have first := push?_eq w digit
    rw [List.foldlM_cons, Nat.ofDigitChars_cons]
    cases pushed : push? w c with
    | none =>
      -- The digits that are left would only make the number larger.
      rw [pushed, Option.map_none, eq_comm, fitting?_eq_none_iff] at first
      exact ((fitting?_eq_none_iff _).mpr (first.trans (le_ofDigitChars digits _))).symm
    | some v =>
      rw [pushed, Option.map_some, eq_comm, fitting?_eq_some_iff] at first
      have rest := ih v later
      rwa [← first.2] at rest

theorem word?_eq_some_iff (s : String) (w : UInt32) : word? s = some w ↔ Spells s w.toNat := by
  unfold word? Spells
  split
  next written =>
    rw [Bool.and_eq_true, decide_eq_true_iff, List.all_eq_true] at written
    have read := foldlM_push? 0 written.2
    constructor
    · intro found
      rw [found, Option.map_some, eq_comm, fitting?_eq_some_iff] at read
      exact ⟨written.1, written.2, read.2⟩
    · rintro ⟨-, -, value⟩
      have fits : fitting? (Nat.ofDigitChars 10 s.toList 0) = some w.toNat :=
        (fitting?_eq_some_iff _ _).mpr ⟨value ▸ w.toNat_lt, value⟩
      obtain ⟨v, found, same⟩ := Option.map_eq_some_iff.mp (read.trans fits)
      rw [found, UInt32.toNat_inj.mp same]
  next other =>
    refine ⟨nofun, fun ⟨nonempty, digits, _⟩ => absurd ?_ other⟩
    rw [Bool.and_eq_true, decide_eq_true_iff, List.all_eq_true]
    exact ⟨nonempty, digits⟩

theorem wordUpTo_eq_some_iff (max w : UInt32) (s : String) :
    wordUpTo max s = some w ↔ Spells s w.toNat ∧ w.toNat ≤ max.toNat := by
  unfold wordUpTo
  rw [Option.filter_eq_some_iff, word?_eq_some_iff, decide_eq_true_iff, UInt32.le_iff_toNat_le]

theorem wordUpTo_eq (max : UInt32) (s : String) : (wordUpTo max s).map UInt32.toNat = upTo max.toNat s := by
  apply Option.ext
  intro n
  rw [upTo_eq_some_iff, Option.map_eq_some_iff]
  simp only [wordUpTo_eq_some_iff]
  constructor
  · rintro ⟨w, read, rfl⟩
    exact read
  · rintro ⟨spells, le⟩
    have fits : n.toUInt32.toNat = n := Nat.mod_eq_of_lt (Nat.lt_of_le_of_lt le max.toNat_lt)
    exact ⟨n.toUInt32, by rw [fits]; exact ⟨spells, le⟩, fits⟩

/-! ## Exactness -/

/-- What is read is the decimal value, with no digit lost and no number that has wrapped around. Zeros in front make no
difference, and a number within the limit is read back from its text. -/
theorem upTo_exact (max : UInt32) :
    (∀ s, (wordUpTo max s).map UInt32.toNat = upTo max.toNat s) ∧
    (∀ s n, upTo max.toNat s = some n ↔
      s ≠ "" ∧ (∀ c ∈ s.toList, c.isDigit) ∧ decimal s.toList = n ∧ n ≤ max.toNat) ∧
    (∀ zeros s, s ≠ "" → upTo max.toNat (String.ofList (List.replicate zeros '0') ++ s) = upTo max.toNat s) ∧
    (∀ s, max.toNat < decimal s.toList → wordUpTo max s = none) ∧
    ∀ n ≤ max.toNat, upTo max.toNat (toString n) = some n := by
  have read (s : String) (n : Nat) : upTo max.toNat s = some n ↔
      s ≠ "" ∧ (∀ c ∈ s.toList, c.isDigit) ∧ decimal s.toList = n ∧ n ≤ max.toNat := by
    rw [upTo_eq_some_iff, spells_iff_decimal, and_assoc, and_assoc]
  refine ⟨wordUpTo_eq max, read, fun zeros s nonempty => ?_, fun s large => ?_, fun n le => ?_⟩
  · apply Option.ext
    intro n
    rw [upTo_eq_some_iff, upTo_eq_some_iff, spells_zeros nonempty]
  · rw [Option.eq_none_iff_forall_ne_some]
    intro w found
    have known : upTo max.toNat s = some w.toNat := by rw [← wordUpTo_eq, found, Option.map_some]
    obtain ⟨-, -, value, le⟩ := (read s w.toNat).mp known
    omega
  · exact (upTo_eq_some_iff max.toNat (toString n) n).mpr ⟨spells_toString n, le⟩

theorem upTo_exact_wrapped :
    let largest : UInt32 := 4294967295
    let zeros := String.ofList (List.replicate 40 '0')
    "65535" ≠ "" ∧ upTo largest.toNat (zeros ++ "65535") = some 65535 ∧
      (255 : UInt32).toNat < decimal "4294967296009".toList ∧ wordUpTo 255 "4294967296009" = none ∧
      4294967295 ≤ largest.toNat ∧ upTo largest.toNat (toString 4294967295) = some 4294967295 := by
  -- A number with zeros in front, one that would wrap around to nine, and the largest word of all.
  intro largest zeros
  obtain ⟨-, -, padded, -, back⟩ := upTo_exact largest
  obtain ⟨-, -, -, wrapped, -⟩ := upTo_exact 255
  have nonempty : "65535" ≠ "" := by decide
  have large : (255 : UInt32).toNat < decimal "4294967296009".toList := by decide +kernel
  have within : 4294967295 ≤ largest.toNat := by decide
  refine ⟨nonempty, ?_, large, wrapped _ large, within, back 4294967295 within⟩
  rw [padded 40 "65535" nonempty]
  decide +kernel

end SyscallFilter.Numeral
