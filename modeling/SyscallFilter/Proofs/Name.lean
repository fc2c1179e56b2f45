import SyscallFilter.Name
import SyscallFilter.Proofs.Text

/-!
# Names of errors and signals

A name stands for the number at whose place it is listed, in any case. No two names of a list are the same but for
case, so it does not matter that a list is searched from its start.
-/

namespace SyscallFilter

namespace Text

def lower (text : String) : List Char := text.toList.map Char.toLower

theorem sameLetters_iff (a b : String) : sameLetters a b = true ↔ lower a = lower b := by
  unfold sameLetters lower
  exact beq_iff_eq

theorem lower_append (a b : String) : lower (a ++ b) = lower a ++ lower b := by
  simp [lower]

theorem isDigit_toLower (c : Char) : c.toLower.isDigit = c.isDigit := by
  rw [Bool.eq_iff_iff]
  delta Char.isDigit Char.toLower
  grind

theorem startsWithDigit_eq_lower (text : String) :
    Numeral.startsWithDigit text = (lower text).head?.any Char.isDigit := by
  unfold Numeral.startsWithDigit lower
  cases text.toList with
  | nil => rfl
  | cons c cs => exact (isDigit_toLower c).symm

/-- The small letters as one number: a long list of names is told apart much faster by these. -/
def packed (text : String) : Nat := (lower text).foldl (fun n c => 256 * n + c.toNat) 0

theorem lower_ne_of_packed {a b : String} (h : packed a ≠ packed b) : lower a ≠ lower b := by
  intro same
  exact h (by rw [packed, packed, same])

end Text

theorem findIdx?_eq_some_iff_of_alone {α : Type} {xs : List α} {test : α → Bool}
    (alone : xs.Pairwise fun a b => test a = true → ¬ test b = true) (i : Nat) :
    xs.findIdx? test = some i ↔ ∃ a, xs[i]? = some a ∧ test a = true := by
  rw [List.findIdx?_eq_some_iff_getElem]
  constructor
  · rintro ⟨inside, passed, -⟩
    exact ⟨xs[i], List.getElem?_eq_getElem inside, passed⟩
  · rintro ⟨a, found, passed⟩
    obtain ⟨inside, rfl⟩ := List.getElem?_eq_some_iff.mp found
    refine ⟨inside, passed, fun j earlier early => ?_⟩
    exact List.pairwise_iff_getElem.mp alone j i (by omega) inside earlier early passed

/-! ## Errors -/

namespace Errno

def Named (text : String) (n : Nat) : Prop :=
  ∃ place known, n = place + 1 ∧ names[place]? = some (some known) ∧ Text.lower known = Text.lower text

theorem names_apart :
    ((names.filterMap id).map Text.packed).Nodup ∧
      ∀ known ∈ names.filterMap id, (Text.lower known).head? = some 'e' := by
  decide +kernel

theorem names_alone (text : String) :
    names.Pairwise fun a b =>
      (a.any (Text.sameLetters · text)) = true → ¬ (b.any (Text.sameLetters · text)) = true := by
  have distinct := List.pairwise_filterMap.mp (List.pairwise_map.mp names_apart.1)
  refine distinct.imp fun {a b} apart first second => ?_
  obtain ⟨x, rfl, hx⟩ := (Option.any_eq_true _ a).mp first
  obtain ⟨y, rfl, hy⟩ := (Option.any_eq_true _ b).mp second
  rw [Text.sameLetters_iff] at hx hy
  exact Text.lower_ne_of_packed (apart x rfl y rfl) (hx.trans hy.symm)

theorem byName?_eq_some_iff (text : String) (n : Nat) : byName? text = some n ↔ Named text n := by
  unfold byName? Named
  simp only [Option.map_eq_some_iff, findIdx?_eq_some_iff_of_alone (names_alone text), Option.any_eq_true]
  constructor
  · rintro ⟨place, ⟨_, found, known, rfl, same⟩, rfl⟩
    exact ⟨place, known, rfl, found, (Text.sameLetters_iff known text).mp same⟩
  · rintro ⟨place, known, rfl, found, same⟩
    exact ⟨place, ⟨_, found, known, rfl, (Text.sameLetters_iff known text).mpr same⟩, rfl⟩

theorem range_of_named {text : String} {n : Nat} (named : Named text n) : 1 ≤ n ∧ n ≤ 133 := by
  obtain ⟨place, known, rfl, listed, -⟩ := named
  have inside : place < names.length := (List.getElem?_eq_some_iff.mp listed).1
  have count : names.length = 133 := rfl
  omega

theorem startsWithDigit_of_named {text : String} {n : Nat} (named : Named text n) :
    Numeral.startsWithDigit text = false := by
  obtain ⟨place, known, -, listed, same⟩ := named
  have mem : known ∈ names.filterMap id := by simpa using List.mem_of_getElem? listed
  rw [Text.startsWithDigit_eq_lower, ← same, names_apart.2 known mem]
  rfl

theorem parse?_eq_some_iff (text : String) (n : Nat) :
    parse? text = some n ↔ (Numeral.Spells text n ∧ 1 ≤ n ∧ n ≤ 4095) ∨ Named text n := by
  have read : parse? text = some n ↔
      (Numeral.upTo maxErrno text = some n ∨ Numeral.upTo maxErrno text = none ∧ byName? text = some n) ∧ 1 ≤ n := by
    unfold parse?
    rw [Option.filter_eq_some_iff, decide_eq_true_iff]
    cases Numeral.upTo maxErrno text <;> simp
  rw [read, Numeral.upTo_eq_some_iff, byName?_eq_some_iff]
  have unread (named : Named text n) : Numeral.upTo maxErrno text = none := by
    refine Option.eq_none_iff_forall_ne_some.mpr fun m number => ?_
    have digit := Numeral.startsWithDigit_of_spells ((Numeral.upTo_eq_some_iff _ _ _).mp number).1
    rw [startsWithDigit_of_named named] at digit
    cases digit
  constructor
  · rintro ⟨⟨spells, small⟩ | ⟨-, named⟩, large⟩
    · exact .inl ⟨spells, large, small⟩
    · exact .inr named
  · rintro (⟨spells, large, small⟩ | named)
    · exact ⟨.inl ⟨spells, small⟩, large⟩
    · exact ⟨.inr ⟨unread named, named⟩, (range_of_named named).1⟩

end Errno

/-! ## Signals -/

namespace Signal

/-- The text names the signal `n`, in any case. It may leave out the leading `SIG`. -/
def Named (text : String) (n : Nat) : Prop :=
  ∃ place known, n = place + 1 ∧ names[place]? = some known ∧
    (Text.lower known = Text.lower text ∨ Text.lower known = Text.lower ("SIG" ++ text))

theorem bareName_cases (text : String) :
    Text.lower text = ['s', 'i', 'g'] ++ Text.lower (bareName text) ∨
      bareName text = text ∧ ∀ cs, Text.lower text ≠ ['s', 'i', 'g'] ++ cs := by
  unfold bareName
  split
  next s i g rest h =>
    split
    next marked =>
      simp only [Bool.and_eq_true, decide_eq_true_eq] at marked
      exact .inl (by simp [Text.lower, h, marked])
    next other =>
      refine .inr ⟨rfl, fun cs same => other ?_⟩
      simp only [Text.lower, h, List.map_cons, List.cons_append, List.nil_append, List.cons.injEq] at same
      simp [same]
  next short =>
    refine .inr ⟨rfl, fun cs same => ?_⟩
    match h : text.toList with
    | [] | [_] | [_, _] => simp [Text.lower, h] at same
    | s :: i :: g :: rest => exact short s i g rest h

theorem names_marked : ∀ known ∈ names,
    (Text.lower known).take 3 = ['s', 'i', 'g'] ∧ ((Text.lower known).drop 3).take 3 ≠ ['s', 'i', 'g'] ∧
      ((Text.lower known).drop 3).head?.any Char.isDigit = false := by
  decide +kernel

theorem names_distinct : names.Pairwise fun a b => Text.lower a ≠ Text.lower b := by
  decide +kernel

theorem lower_of_mem {known : String} (mem : known ∈ names) :
    Text.lower known = ['s', 'i', 'g'] ++ Text.lower (bareName known) ∧
      ∀ cs, Text.lower (bareName known) ≠ ['s', 'i', 'g'] ++ cs := by
  obtain ⟨start, next, -⟩ := names_marked known mem
  rcases bareName_cases known with marked | ⟨-, unmarked⟩
  · refine ⟨marked, fun cs again => next ?_⟩
    simp [marked, again]
  · refine absurd ?_ (unmarked ((Text.lower known).drop 3))
    rw [← start, List.take_append_drop]

theorem sameLetters_bareName_iff {known : String} (mem : known ∈ names) (text : String) :
    Text.sameLetters (bareName known) (bareName text) = true ↔
      Text.lower known = Text.lower text ∨ Text.lower known = Text.lower ("SIG" ++ text) := by
  obtain ⟨start, next⟩ := lower_of_mem mem
  have sig : Text.lower ("SIG" ++ text) = ['s', 'i', 'g'] ++ Text.lower text := Text.lower_append "SIG" text
  rw [Text.sameLetters_iff, sig, start]
  rcases bareName_cases text with marked | ⟨bare, unmarked⟩
  · rw [marked, List.append_cancel_left_eq, List.append_cancel_left_eq]
    exact (or_iff_left (next _)).symm
  · rw [bare, List.append_cancel_left_eq]
    exact (or_iff_right (unmarked _).symm).symm

theorem names_alone (text : String) :
    names.Pairwise fun a b =>
      Text.sameLetters (bareName a) (bareName text) = true →
        ¬ Text.sameLetters (bareName b) (bareName text) = true := by
  refine names_distinct.imp_of_mem fun {a b} hA hB distinct first second => distinct ?_
  rw [Text.sameLetters_iff] at first second
  rw [(lower_of_mem hA).1, (lower_of_mem hB).1, first, second]

theorem byName?_eq_some_iff (text : String) (n : Nat) : byName? text = some n ↔ Named text n := by
  unfold byName? Named
  simp only [Option.map_eq_some_iff, findIdx?_eq_some_iff_of_alone (names_alone text)]
  constructor
  · rintro ⟨place, ⟨known, found, same⟩, rfl⟩
    exact ⟨place, known, rfl, found, (sameLetters_bareName_iff (List.mem_of_getElem? found) text).mp same⟩
  · rintro ⟨place, known, rfl, found, same⟩
    exact ⟨place, ⟨known, found, (sameLetters_bareName_iff (List.mem_of_getElem? found) text).mpr same⟩, rfl⟩

theorem range_of_named {text : String} {n : Nat} (named : Named text n) : 1 ≤ n ∧ n ≤ 31 := by
  obtain ⟨place, known, rfl, listed, -⟩ := named
  have inside : place < names.length := (List.getElem?_eq_some_iff.mp listed).1
  have count : names.length = 31 := rfl
  omega

theorem startsWithDigit_of_named {text : String} {n : Nat} (named : Named text n) :
    Numeral.startsWithDigit text = false := by
  obtain ⟨place, known, -, listed, same⟩ := named
  have mem : known ∈ names := List.mem_of_getElem? listed
  rw [Text.startsWithDigit_eq_lower]
  rcases same with same | same
  · rw [← same, (lower_of_mem mem).1]
    rfl
  · have noDigit := (names_marked known mem).2.2
    rw [same, Text.lower_append] at noDigit
    exact noDigit

theorem parse?_eq_some_iff (text : String) (n : Nat) :
    parse? text = some n ↔ (Numeral.Spells text n ∧ n ≤ 255) ∨ Named text n := by
  unfold parse?
  split
  next digit =>
    have unnamed : ¬ Named text n := by
      intro named
      rw [startsWithDigit_of_named named] at digit
      cases digit
    rw [Numeral.upTo_eq_some_iff, or_iff_left unnamed]
  next letter =>
    have unspelt : ¬ (Numeral.Spells text n ∧ n ≤ 255) := by
      intro spells
      exact letter (Numeral.startsWithDigit_of_spells spells.1)
    rw [byName?_eq_some_iff, or_iff_right unspelt]

theorem parse?_filter_eq_some_iff (text : String) (n : Nat) :
    (parse? text).filter (fun n => 1 ≤ n && n ≤ maxSignal) = some n ↔
      (Numeral.Spells text n ∧ 1 ≤ n ∧ n ≤ 64) ∨ Named text n := by
  rw [Option.filter_eq_some_iff, Bool.and_eq_true, decide_eq_true_iff, decide_eq_true_iff, maxSignal,
    parse?_eq_some_iff]
  constructor
  · rintro ⟨⟨spells, -⟩ | named, range⟩
    · exact .inl ⟨spells, range⟩
    · exact .inr named
  · rintro (⟨spells, range⟩ | named)
    · exact ⟨.inl ⟨spells, by omega⟩, range⟩
    · have range := range_of_named named
      exact ⟨.inr named, by omega⟩

end Signal

end SyscallFilter
