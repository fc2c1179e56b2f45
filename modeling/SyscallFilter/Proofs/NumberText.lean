import SyscallFilter.Proofs.Selection

/-!
# Lists of numbers and their text

A list of numbers is accepted if every token of it stands for a number. Numbers that are written one after the other,
however they are spelled, are read back as the set of these numbers.
-/

namespace SyscallFilter

namespace NumberSpec

open CallSpec

/-! ## Marks in front -/

/-- The list with this many marks in front. -/
def marked : Nat → String → String
  | 0, list => list
  | k + 1, list => "!" ++ marked k list

section Marked

variable (k : Nat) {list : String}

theorem turns_marked : turns .clause (marked k list) = turns .clause list + k := by
  induction k with
  | zero => rfl
  | succ k ih =>
    rw [marked, turns_mark, ih, Nat.add_assoc]

theorem unmarked_marked : unmarked .clause (marked k list) = unmarked .clause list := by
  induction k with
  | zero => rfl
  | succ k ih => rw [marked, unmarked_mark, ih]

theorem accepted_marked (resolve : String → Option Nat) :
    Accepted resolve .clause (marked k list) ↔ Accepted resolve .clause list := by
  unfold Accepted
  rw [unmarked_marked]

theorem selects_marked (names : String → Prop) (plain : Plain list) :
    Selects .clause names (marked k list) ↔ Xor (k % 2 = 1) (names list) := by
  unfold Selects
  rw [turns_marked, unmarked_marked, turns_of_bare plain.bare, unmarked_of_bare plain.bare, Nat.zero_add]

end Marked

/-! ## Numbers one after the other -/

section Texts

variable {texts : List String} {ns : List Nat}

theorem tokens_intercalate (nonempty : texts ≠ []) (whole : ∀ text ∈ texts, ',' ∉ text.toList) :
    tokens (String.intercalate "," texts) = texts.filter (· ≠ "") := by
  have split : (String.intercalate "," texts).toList.splitOn ',' = texts.map String.toList := by
    rw [String.toList_intercalate]
    apply List.splitOn_intercalate
    · simpa using whole
    · simpa using nonempty
  unfold tokens
  rw [split, List.filter_map, List.map_map]
  simp [Function.comp_def]

/-- The texts spell the numbers, one each. Empty texts do not count. -/
def Spelled (texts : List String) (ns : List Nat) : Prop := List.Forall₂ Numeral.Spells (texts.filter (· ≠ "")) ns

namespace Spelled

theorem exists_spells (spelled : Spelled texts ns) {text : String} (mem : text ∈ texts) (written : text ≠ "") :
    ∃ n ∈ ns, Numeral.Spells text n := by
  have among : text ∈ texts.filter (· ≠ "") := by simpa using ⟨mem, written⟩
  unfold Spelled at spelled
  generalize texts.filter (· ≠ "") = list at spelled among
  induction spelled with
  | nil => cases among
  | cons spells _ ih =>
    rcases List.mem_cons.mp among with rfl | among
    · exact ⟨_, List.mem_cons_self, spells⟩
    · obtain ⟨n, mem, spells⟩ := ih among
      exact ⟨n, List.mem_cons_of_mem _ mem, spells⟩

theorem mem_iff (spelled : Spelled texts ns) (n : Nat) :
    n ∈ ns ↔ ∃ text ∈ texts.filter (· ≠ ""), Numeral.Spells text n := by
  unfold Spelled at spelled
  generalize texts.filter (· ≠ "") = list at spelled
  induction spelled with
  | nil => simp
  | cons spells _ ih =>
    have value : Numeral.Spells _ n ↔ n = _ :=
      ⟨fun spells' => spells'.2.2.symm.trans spells.2.2, fun same => same ▸ spells⟩
    simp only [List.mem_cons, or_and_right, exists_or, exists_eq_left, value, ih]

theorem isDigit (spelled : Spelled texts ns) {text : String} (mem : text ∈ texts) {c : Char}
    (within : c ∈ text.toList) : c.isDigit = true := by
  have written : text ≠ "" := by
    rintro rfl
    simp at within
  obtain ⟨n, -, spells⟩ := spelled.exists_spells mem written
  exact spells.2.1 c within

theorem plain (spelled : Spelled texts ns) : Plain (String.intercalate "," texts) := by
  have known {c : Char} (mem : c ∈ (String.intercalate "," texts).toList) : c = ',' ∨ c.isDigit = true := by
    rcases Text.mem_intercalate mem with comma | ⟨_, among, within⟩
    · exact .inl (by simpa using comma)
    · exact .inr (spelled.isDigit among within)
  refine ⟨fun first => ?_, fun word => ?_, fun word => ?_⟩
  · exact absurd (known (List.mem_of_head? first)) (by decide)
  · exact absurd (known (c := 'n') (by simp [word])) (by decide)
  · exact absurd (known (c := 'a') (by simp [word])) (by decide)

theorem tokens_eq (spelled : Spelled texts ns) (nonempty : ns ≠ []) :
    tokens (String.intercalate "," texts) = texts.filter (· ≠ "") := by
  apply tokens_intercalate
  · rintro rfl
    exact nonempty (List.forall₂_nil_left_iff.mp spelled)
  · intro text mem comma
    exact absurd (spelled.isDigit mem comma) (by decide)

end Spelled

variable (spelled : Spelled texts ns) (nonempty : ns ≠ []) (small : ∀ n ∈ ns, n ≤ 2147483647)

include spelled nonempty small

theorem accepted_of_spelled : Accepted Numeral.number? .clause (String.intercalate "," texts) := by
  rw [accepted_iff_of_plain spelled.plain, spelled.tokens_eq nonempty]
  constructor
  · intro none
    unfold Spelled at spelled
    rw [none] at spelled
    exact nonempty (List.forall₂_nil_left_iff.mp spelled)
  · intro text mem
    obtain ⟨mem, written⟩ := List.mem_filter.mp mem
    obtain ⟨n, listed, spells⟩ := spelled.exists_spells mem (by simpa using written)
    rw [(Numeral.number?_eq_some_iff text n).mpr ⟨spells, small n listed⟩]
    rfl

theorem namesDescriptor_of_spelled (m : Nat) : NamesDescriptor m (String.intercalate "," texts) ↔ m ∈ ns := by
  rw [namesDescriptor_iff_of_plain spelled.plain, spelled.tokens_eq nonempty, spelled.mem_iff]
  constructor
  · rintro ⟨text, mem, n, spells, -, same⟩
    exact ⟨text, mem, Int.ofNat.inj same ▸ spells⟩
  · rintro ⟨text, mem, spells⟩
    exact ⟨text, mem, m, spells, small m ((spelled.mem_iff m).mpr ⟨text, mem, spells⟩), rfl⟩

theorem parse_fd_of_spelled (p : Personalities) (k : Nat) :
    ∃ set, (Filter.parse .fd (marked k (String.intercalate "," texts)) p .clause).1 = .ok (.fd set) ∧
      ∀ m, set.contains m = true ↔ Xor (m ∈ ns) (k % 2 = 1) := by
  have accepted := (accepted_marked k _).mpr (accepted_of_spelled spelled nonempty small)
  refine ⟨_, Filter.parse_fd_eq_ok_iff.mpr ⟨accepted, rfl⟩, fun m => ?_⟩
  rw [← selects_iff_contains, selects_marked k _ spelled.plain, namesDescriptor_of_spelled spelled nonempty small,
    xor_comm]

end Texts

/-! ## Any list -/

section Lists

variable {resolve : String → Option Nat} {mode : Mode} {spec : String} (kind : NumberKind) (set : NumberSet)
  (notNone : unmarked mode spec ≠ "none") (notAll : unmarked mode spec ≠ "all")

include notNone notAll

theorem accepted_iff_of_tokens :
    Accepted resolve mode spec ↔
      tokens (unmarked mode spec) ≠ [] ∧ ∀ token ∈ tokens (unmarked mode spec), ∃ n, resolve token = some n := by
  unfold Accepted
  simp [notNone, notAll, Option.isSome_iff_exists]

theorem addTo_state (accepted : Accepted resolve mode spec) :
    (addTo spec kind resolve mode set).2.inverted = (set.inverted ^^ decide (turns mode spec % 2 = 1)) ∧
      ∀ n, n ∈ (addTo spec kind resolve mode set).2.bits ↔
        n ∈ set.bits ∨ ∃ token ∈ tokens (unmarked mode spec), resolve token = some n := by
  have rounds_eq : rounds mode spec = turns mode spec := by simp [rounds, notAll]
  rw [addTo_of_accepted accepted, rounds_eq]
  constructor
  · rw [NumberSet.inverted_addAll]
    rfl
  · intro n
    rw [NumberSet.mem_bits_addAll, mem_numbersOf_iff, or_comm]
    exact or_congr_right ((and_iff_right notNone).trans (and_iff_right notAll))

theorem addTo_error_iff (e : ClauseError) :
    (addTo spec kind resolve mode set).1 = .error e ↔
      tokens (unmarked mode spec) = [] ∧ e = .badNumber kind spec ∨
        ∃ token, FirstUnread resolve (tokens (unmarked mode spec)) token ∧ e = .badNumber kind token := by
  constructor
  · intro failed
    have refused : ¬ Accepted resolve mode spec := by
      intro accepted
      rw [addTo_of_accepted accepted] at failed
      cases failed
    obtain ⟨token, failed', reason⟩ := addTo_of_refused refused kind set
    have same : e = .badNumber kind token := Except.error.inj (failed.symm.trans failed')
    obtain ⟨empty, rfl⟩ | first := reason
    · exact .inl ⟨empty, same⟩
    · exact .inr ⟨token, first, same⟩
  · rw [addTo_eq_turned, if_neg notNone, if_neg notAll]
    rintro (⟨empty, rfl⟩ | ⟨token, first, rfl⟩)
    · rw [empty]
    · have failed := addTokens_of_firstUnread kind first (set.turned (turns mode spec))
      cases list : tokens (unmarked mode spec) with
      | nil => exact absurd list first.ne_nil
      | cons => rwa [list] at failed

end Lists

/-- A word turns the set round and does no more. Any other list is accepted if it has tokens and all of them are read;
it adds what they are read as and turns the set round once for each mark. A refused list names its first token that is
not read. So numbers that are written one after the other are read back. -/
theorem addTo_resolves :
    (∀ (spec : String) (kind : NumberKind) (resolve : String → Option Nat) (mode : Mode) (set : NumberSet),
      let k := turns mode spec
      let list := unmarked mode spec
      let done := addTo spec kind resolve mode set
      (list = "none" → done = (.ok (), set.turned k)) ∧
      (list = "all" → done = (.ok (), set.turned (k + 1))) ∧
      (list ≠ "none" → list ≠ "all" →
        (done.1 = .ok () ↔ tokens list ≠ [] ∧ ∀ token ∈ tokens list, ∃ n, resolve token = some n) ∧
        (done.1 = .ok () → done.2.inverted = (set.inverted ^^ decide (k % 2 = 1)) ∧
          ∀ n, n ∈ done.2.bits ↔ n ∈ set.bits ∨ ∃ token ∈ tokens list, resolve token = some n) ∧
        ∀ e, done.1 = .error e ↔
          tokens list = [] ∧ e = .badNumber kind spec ∨
            ∃ token, FirstUnread resolve (tokens list) token ∧ e = .badNumber kind token)) ∧
    ∀ (p : Personalities) (k : Nat) (texts : List String) (ns : List Nat), Spelled texts ns → ns ≠ [] →
      (∀ n ∈ ns, n ≤ 2147483647) →
      ∃ set, (Filter.parse .fd (marked k (String.intercalate "," texts)) p .clause).1 = .ok (.fd set) ∧
        ∀ m, set.contains m = true ↔ Xor (m ∈ ns) (k % 2 = 1) := by
  constructor
  · intro spec kind resolve mode set k list done
    have done_eq := addTo_eq_turned resolve mode spec kind set
    have ok_iff : done.1 = .ok () ↔ Accepted resolve mode spec := addTo_ok_iff kind set
    refine ⟨fun isNone => ?_, fun isAll => ?_, fun notNone notAll => ⟨?_, fun ok => ?_, fun e => ?_⟩⟩
    · exact done_eq.trans (if_pos isNone)
    · have notNone : list ≠ "none" := by simp [isAll]
      exact done_eq.trans ((if_neg notNone).trans (if_pos isAll))
    · exact ok_iff.trans (accepted_iff_of_tokens notNone notAll)
    · exact addTo_state kind set notNone notAll (ok_iff.mp ok)
    · exact addTo_error_iff kind set notNone notAll e
  · intro p k texts ns spelled nonempty small
    exact parse_fd_of_spelled spelled nonempty small p k

theorem addTo_resolves_zeros :
    let p : Personalities := ⟨[⟨"demo", []⟩], List.cons_ne_nil _ _⟩
    let texts := ["", "007", "", "12", "7"]
    let grown := addTo "!int,,15" .signal Signal.parse? .clause (NumberSet.empty.add 9)
    let refused := addTo "!!4,9x,-1" .descriptor Numeral.number? .clause .empty
    addTo "!none" .signal Signal.parse? .clause .empty = (.ok (), .turned .empty 1) ∧
      addTo "all" .signal Signal.parse? .plain .empty = (.ok (), .turned .empty 1) ∧
      (grown.1 = .ok () ∧ grown.2.inverted = true ∧ 2 ∈ grown.2.bits ∧ 9 ∈ grown.2.bits) ∧
      refused.1 = .error (.badNumber .descriptor "9x") ∧
      Spelled texts [7, 12, 7] ∧
      ∃ set, (Filter.parse .fd (marked 3 (String.intercalate "," texts)) p .clause).1 = .ok (.fd set) ∧
        set.contains 7 = false ∧ set.contains 4294967295 = true := by
  intro p texts grown refused
  obtain ⟨lists, written⟩ := addTo_resolves
  have accepted : grown.1 = .ok () ∧ grown.2.inverted = true ∧ 2 ∈ grown.2.bits ∧ 9 ∈ grown.2.bits := by
    obtain ⟨-, -, meaning⟩ := lists "!int,,15" .signal Signal.parse? .clause (NumberSet.empty.add 9)
    obtain ⟨ok_iff, state, -⟩ := meaning (by decide) (by decide)
    have tokens_eq : tokens (unmarked .clause "!int,,15") = ["int", "15"] := by decide
    have named : Signal.parse? "int" = some 2 := by decide +kernel
    have plain : Signal.parse? "15" = some 15 := by decide +kernel
    have ok : grown.1 = .ok () := ok_iff.mpr (by simp [tokens_eq, named, plain])
    obtain ⟨inverted, bits⟩ := state ok
    exact ⟨ok, inverted, (bits 2).mpr (.inr ⟨"int", by decide, named⟩), (bits 9).mpr (.inl (by decide))⟩
  have failed : refused.1 = .error (.badNumber .descriptor "9x") := by
    obtain ⟨-, -, meaning⟩ := lists "!!4,9x,-1" .descriptor Numeral.number? .clause .empty
    obtain ⟨-, -, error_iff⟩ := meaning (by decide) (by decide)
    exact (error_iff _).mpr (.inr ⟨"9x", ⟨["4"], ["-1"], by decide, by decide, by decide⟩, rfl⟩)
  have spelled : Spelled texts [7, 12, 7] := by
    have spells {text : String} {n : Nat} (read : Numeral.parse? text = some n) : Numeral.Spells text n :=
      (Numeral.parse?_eq_some_iff text n).mp read
    exact .cons (spells (by decide)) (.cons (spells (by decide)) (.cons (spells (by decide)) .nil))
  obtain ⟨set, read, members⟩ := written p 3 texts [7, 12, 7] spelled (by decide) (by decide)
  refine ⟨?_, ?_, accepted, failed, spelled, set, read, ?_, ?_⟩
  · exact (lists "!none" .signal Signal.parse? .clause .empty).1 (by decide)
  · exact (lists "all" .signal Signal.parse? .plain .empty).2.1 (by decide)
  · rw [← Bool.not_eq_true, members]
    decide
  · rw [members]
    decide

end NumberSpec

end SyscallFilter
