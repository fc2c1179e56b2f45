import SyscallFilter.Proofs.Filter
import SyscallFilter.Proofs.NumberSpec

/-!
# What lists select

A list names calls or descriptors. It selects what it names, and every mark in front of it turns that round. A filter
that is read of a list is true of the calls that the list selects, or that have a descriptor that it selects.
-/

namespace SyscallFilter

namespace CallSpec

/-! ## Marks -/

theorem turns_mark (spec : String) : turns .clause ("!" ++ spec) = turns .clause spec + 1 := by
  simp [turns]

theorem unmarked_mark (spec : String) : unmarked .clause ("!" ++ spec) = unmarked .clause spec := by
  simp [unmarked]

theorem turns_of_bare {mode : Mode} {list : String} (bare : list.toList.head? ≠ some '!') : turns mode list = 0 := by
  cases mode with
  | plain => rfl
  | clause =>
    by_contra marks
    exact bare ((Text.length_takeWhile_ne_zero_iff '!' list.toList).mp marks)

theorem unmarked_of_bare {mode : Mode} {list : String} (bare : list.toList.head? ≠ some '!') :
    unmarked mode list = list := by
  cases mode with
  | plain => rfl
  | clause => exact Text.ofList_dropWhile_of_head bare

/-- A list selects what it names without its marks, and every mark turns that round. -/
def Selects (mode : Mode) (names : String → Prop) (spec : String) : Prop :=
  Xor (turns mode spec % 2 = 1) (names (unmarked mode spec))

theorem selects_mark (names : String → Prop) (spec : String) :
    Selects .clause names ("!" ++ spec) ↔ ¬ Selects .clause names spec := by
  unfold Selects
  rw [turns_mark, unmarked_mark, xor_iff_iff_not, xor_iff_iff_not]
  have odd : (turns .clause spec + 1) % 2 = 1 ↔ ¬ turns .clause spec % 2 = 1 := by omega
  rw [odd, not_iff]

/-! ## Lists of tokens -/

/-- A list that stands for its tokens: it has no mark in front, and is no word. -/
structure Plain (list : String) : Prop where
  bare : list.toList.head? ≠ some '!'
  notNone : list ≠ "none"
  notAll : list ≠ "all"

namespace Plain

variable {list : String}

theorem selects_iff (plain : Plain list) (names : String → Prop) : Selects .clause names list ↔ names list := by
  unfold Selects
  rw [turns_of_bare plain.bare, unmarked_of_bare plain.bare]
  simp

theorem join (plain : Plain list) (other : String) : Plain (list ++ "," ++ other) := by
  have ne (word : String) (comma : ',' ∉ word.toList) : list ++ "," ++ other ≠ word := by
    rintro rfl
    simp at comma
  refine ⟨?_, ne "none" (by decide), ne "all" (by decide)⟩
  have first := plain.bare
  cases chars : list.toList with
  | nil => simp [chars]
  | cons c cs => simpa [chars] using first

end Plain

theorem tokens_join (list other : String) : tokens (list ++ "," ++ other) = tokens list ++ tokens other := by
  have joined := Text.tokens_append ',' list other
  rwa [Text.tokens_eq_splitOn, Text.tokens_eq_splitOn, Text.tokens_eq_splitOn] at joined

/-! ## Lists of calls -/

section Calls

variable (mode : Mode)

def Accepted (tables : List Table) (spec : String) : Prop :=
  unmarked mode spec = "none" ∨ unmarked mode spec = "all" ∨
    (∀ token ∈ tokens (unmarked mode spec), Sound mode tables token) ∧
      ∃ token ∈ tokens (unmarked mode spec), Resolves mode tables token

/-- A list without marks names the number of the table. -/
def Names (t : Table) (n : Nat) (list : String) : Prop :=
  list = "all" ∨ list ≠ "none" ∧ ∃ token ∈ tokens list, Selector.Denotes mode t (body token) n

variable {mode} {tables : List Table} {spec : String}

theorem addTo_ok_iff {sets : List NumberSet} (one : sets.length = tables.length) :
    (addTo spec mode tables sets).result = .ok () ↔ Accepted mode tables spec := by
  unfold Accepted
  by_cases isNone : unmarked mode spec = "none"
  · simp [addTo_of_none isNone, isNone]
  by_cases isAll : unmarked mode spec = "all"
  · simp [addTo_of_all isAll, isAll]
  obtain ⟨result, -⟩ := addTo_of_tokens isNone isAll tables sets
  have read : Read mode tables (tokens (unmarked mode spec)) false (sets.map (·.turned (turns mode spec))) _ :=
    addTokens_read _ false (by rw [List.length_map, one])
  rw [result, verdict_eq_ok_iff, read.ok]
  simp [isNone, isAll]

theorem grown_addTo (accepted : Accepted mode tables spec) (notNone : unmarked mode spec ≠ "none")
    (notAll : unmarked mode spec ≠ "all") {sets : List NumberSet} (one : sets.length = tables.length) :
    Grown tables (fun t n => ∃ token ∈ tokens (unmarked mode spec), Selector.Denotes mode t (body token) n)
      (sets.map (·.turned (turns mode spec))) (addTo spec mode tables sets).state := by
  obtain ⟨sound, -⟩ := (accepted.resolve_left notNone).resolve_left notAll
  have read : Read mode tables (tokens (unmarked mode spec)) false (sets.map (·.turned (turns mode spec))) _ :=
    addTokens_read _ false (by rw [List.length_map, one])
  rw [(addTo_of_tokens notNone notAll tables sets).2]
  exact read.grown.congr fun t n => by simp only [reached_iff_mem sound]

theorem getElem?_turned_empty {i : Nat} {t : Table} (table : tables[i]? = some t) (k : Nat) :
    ((tables.map fun _ => NumberSet.empty).map (·.turned k))[i]? = some (NumberSet.empty.turned k) := by
  rw [List.getElem?_map, List.getElem?_map, table]
  rfl

theorem contains_addTo (accepted : Accepted mode tables spec) :
    let sets := (addTo spec mode tables (tables.map fun _ => .empty)).state
    sets.length = tables.length ∧
      ∀ (i : Nat) (t : Table), tables[i]? = some t → ∃ s, sets[i]? = some s ∧
        ∀ n, s.contains n = true ↔ Selects mode (Names mode t n) spec := by
  intro sets
  unfold Selects Names
  by_cases isNone : unmarked mode spec = "none"
  · have state : sets = _ := congrArg Attempt.state (addTo_of_none isNone tables _)
    rw [state]
    refine ⟨by simp, fun i t table => ⟨_, getElem?_turned_empty table (turns mode spec), fun n => ?_⟩⟩
    rw [NumberSet.contains_turned_empty, isNone, xor_iff_iff_not]
    simp
  by_cases isAll : unmarked mode spec = "all"
  · have state : sets = _ := congrArg Attempt.state (addTo_of_all isAll tables _)
    rw [state]
    refine ⟨by simp, fun i t table => ⟨_, getElem?_turned_empty table (turns mode spec + 1), fun n => ?_⟩⟩
    rw [NumberSet.contains_turned_empty, isAll, xor_iff_iff_not]
    simp
    omega
  have one : (tables.map fun _ => NumberSet.empty).length = tables.length := List.length_map _
  have grown := grown_addTo accepted isNone isAll one
  refine ⟨grown.length.trans (by simp), fun i t table => ?_⟩
  obtain ⟨s, set, inverted, bits⟩ := grown.each i t _ table (getElem?_turned_empty table (turns mode spec))
  refine ⟨s, set, fun n => ?_⟩
  rw [NumberSet.contains_eq_true_iff, inverted, NumberSet.inverted_turned_empty, bits]
  simp [NumberSet.turned, NumberSet.empty, isNone, isAll]

theorem accepted_mark : Accepted .clause tables ("!" ++ spec) ↔ Accepted .clause tables spec := by
  unfold Accepted
  rw [unmarked_mark]

theorem Plain.accepted_iff (plain : Plain spec) :
    Accepted .clause tables spec ↔
      (∀ token ∈ tokens spec, Sound .clause tables token) ∧ ∃ token ∈ tokens spec, Resolves .clause tables token := by
  unfold Accepted
  rw [unmarked_of_bare plain.bare]
  simp [plain.notNone, plain.notAll]

theorem Plain.names_iff (plain : Plain spec) (t : Table) (n : Nat) :
    Names .clause t n spec ↔ ∃ token ∈ tokens spec, Selector.Denotes .clause t (body token) n := by
  simp [Names, plain.notNone, plain.notAll]

end Calls

end CallSpec

/-! ## Lists of descriptors -/

namespace NumberSpec

open CallSpec

/-- A list without marks names the descriptor. No list but `all` names a negative one. -/
def NamesDescriptor (fd : Int) (list : String) : Prop :=
  list = "all" ∨ ∃ token ∈ tokens list, ∃ n : Nat, Numeral.Spells token n ∧ n ≤ 2147483647 ∧ fd = n

/-- The descriptors of an accepted list. -/
def descriptors (mode : Mode) (spec : String) : NumberSet :=
  (NumberSet.empty.turned (rounds mode spec)).addAll (numbersOf Numeral.number? (unmarked mode spec))

variable {resolve : String → Option Nat} {mode : Mode} {spec : String}

theorem rounds_odd_iff : rounds mode spec % 2 = 1 ↔ Xor (turns mode spec % 2 = 1) (unmarked mode spec = "all") := by
  unfold rounds
  rw [xor_iff_iff_not]
  split
  next isAll =>
    simp only [isAll, not_true, iff_false]
    omega
  next notAll => simp [notAll]

theorem inverted_descriptors : (descriptors mode spec).inverted = true ↔ rounds mode spec % 2 = 1 := by
  unfold descriptors
  rw [NumberSet.inverted_addAll, NumberSet.inverted_turned_empty]

theorem mem_bits_descriptors (n : Nat) :
    n ∈ (descriptors mode spec).bits ↔
      unmarked mode spec ≠ "all" ∧
        ∃ token ∈ tokens (unmarked mode spec), Numeral.Spells token n ∧ n ≤ 2147483647 := by
  have noNumeral : ∀ token ∈ tokens "none", ¬ Numeral.startsWithDigit token = true := by decide
  unfold descriptors
  rw [NumberSet.mem_bits_addAll, mem_numbersOf_iff]
  simp only [Numeral.number?_eq_some_iff, NumberSet.turned, NumberSet.empty, List.not_mem_nil, or_false]
  refine ⟨And.right, ?_⟩
  rintro ⟨notAll, token, mem, spells⟩
  refine ⟨fun isNone => ?_, notAll, token, mem, spells⟩
  exact noNumeral token (isNone ▸ mem) (Numeral.startsWithDigit_of_spells spells.1)

theorem hasDescriptor_descriptors (fd : Int) :
    Filter.hasDescriptor (descriptors mode spec) fd = true ↔ Selects mode (NamesDescriptor fd) spec := by
  unfold Filter.hasDescriptor Selects NamesDescriptor
  split
  next negative =>
    have unnamed (n : Nat) : fd ≠ n := by omega
    rw [inverted_descriptors, rounds_odd_iff]
    simp [unnamed]
  next =>
    obtain ⟨n, rfl⟩ : ∃ n : Nat, fd = n := ⟨fd.toNat, by omega⟩
    rw [NumberSet.contains_eq_true_iff, inverted_descriptors, rounds_odd_iff, Int.toNat_natCast, mem_bits_descriptors]
    simp only [Int.natCast_inj, xor_iff_iff_not, exists_eq_right_right']
    by_cases isAll : unmarked mode spec = "all" <;> simp [isAll]

theorem selects_iff_contains (mode : Mode) (spec : String) (n : Nat) :
    Selects mode (NamesDescriptor n) spec ↔ (descriptors mode spec).contains n = true := by
  rw [← hasDescriptor_descriptors]
  simp [Filter.hasDescriptor]

theorem accepted_mark : Accepted resolve .clause ("!" ++ spec) ↔ Accepted resolve .clause spec := by
  unfold Accepted
  rw [unmarked_mark]

theorem accepted_iff_of_plain (plain : Plain spec) :
    Accepted resolve .clause spec ↔ tokens spec ≠ [] ∧ ∀ token ∈ tokens spec, (resolve token).isSome := by
  unfold Accepted
  rw [unmarked_of_bare plain.bare]
  simp [plain.notNone, plain.notAll]

theorem namesDescriptor_iff_of_plain (plain : Plain spec) (fd : Int) :
    NamesDescriptor fd spec ↔
      ∃ token ∈ tokens spec, ∃ n : Nat, Numeral.Spells token n ∧ n ≤ 2147483647 ∧ fd = n := by
  simp [NamesDescriptor, plain.notAll]

end NumberSpec

/-! ## Filters -/

/-- The argument at this place is a descriptor of the call: its number is allocated in the table of its
personality. -/
def Call.HasDescriptorAt (p : Personalities) (c : Call) (place : Fin 6) : Prop :=
  ∃ t e, p.get? c.personality = some t ∧ t.get? c.number = some e ∧ e.HasDescriptorAt place

namespace Filter

variable {p : Personalities} {spec : String} {f : Filter}

theorem parse_syscall_eq_ok_iff :
    (parse .syscall spec p .clause).1 = .ok f ↔
      CallSpec.Accepted .clause p.tables spec ∧
        f = .syscall (CallSpec.addTo spec .clause p.tables (p.tables.map fun _ => .empty)).state := by
  have ok : (CallSpec.addTo spec .clause p.tables (p.tables.map fun _ => .empty)).result = .ok () ↔ _ :=
    CallSpec.addTo_ok_iff (List.length_map _)
  rw [← ok]
  unfold parse
  cases result : (CallSpec.addTo spec .clause p.tables (p.tables.map fun _ => .empty)).result <;>
    simp only [result, Except.map, reduceCtorEq, false_and, true_and, Except.ok.injEq, eq_comm]

theorem parse_fd_eq_ok_iff :
    (parse .fd spec p .clause).1 = .ok f ↔
      NumberSpec.Accepted Numeral.number? .clause spec ∧ f = .fd (NumberSpec.descriptors .clause spec) := by
  unfold parse
  by_cases accepted : NumberSpec.Accepted Numeral.number? .clause spec
  · simp [NumberSpec.addTo_of_accepted accepted, accepted, NumberSpec.descriptors, Except.map, eq_comm]
  · obtain ⟨token, failed, -⟩ := NumberSpec.addTo_of_refused accepted .descriptor .empty
    simp [failed, accepted, Except.map]

theorem holds_syscall_iff (parsed : (parse .syscall spec p .clause).1 = .ok f) (c : Call) :
    f.holds c p = true ↔
      ∃ t, p.get? c.personality = some t ∧
        CallSpec.Selects .clause (CallSpec.Names .clause t c.number) spec := by
  obtain ⟨accepted, rfl⟩ := parse_syscall_eq_ok_iff.mp parsed
  obtain ⟨length, each⟩ := CallSpec.contains_addTo accepted
  rw [holds, Personalities.get?]
  cases table : p.tables[c.personality]? with
  | none =>
    have beyond : p.tables.length ≤ c.personality := List.getElem?_eq_none_iff.mp table
    rw [List.getElem?_eq_none (length ▸ beyond)]
    simp
  | some t =>
    obtain ⟨s, set, contains⟩ := each c.personality t table
    rw [set, Option.any_some, contains]
    simp

theorem holds_fd_iff (parsed : (parse .fd spec p .clause).1 = .ok f) (c : Call) :
    f.holds c p = true ↔
      ∃ place, c.HasDescriptorAt p place ∧
        CallSpec.Selects .clause (NumberSpec.NamesDescriptor (c.descriptor place)) spec := by
  obtain ⟨accepted, rfl⟩ := parse_fd_eq_ok_iff.mp parsed
  unfold holds Call.HasDescriptorAt
  simp only [← NumberSpec.hasDescriptor_descriptors, ← mem_placesOf_iff]
  cases p.get? c.personality with
  | none => simp
  | some t => cases entry : t.get? c.number <;> simp [entry]

end Filter

end SyscallFilter
