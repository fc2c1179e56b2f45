import SyscallFilter.Proofs.CallSpec
import SyscallFilter.Proofs.Rejection

/-!
# What a list of numbers means

A list of numbers is accepted if it is a word, or if it has tokens and each stands for a number. An accepted list
turns the set as often as it says, and then adds its numbers.
-/

namespace SyscallFilter

namespace NumberSpec

open CallSpec

/-! ## Tokens -/

section Tokens

variable (kind : NumberKind) {resolve : String → Option Nat} {list : List String}

theorem addTokens_append (each : ∀ token ∈ list, (resolve token).isSome) (rest : List String) (set : NumberSet) :
    addTokens kind resolve (list ++ rest) set = addTokens kind resolve rest (set.addAll (list.filterMap resolve)) := by
  induction list generalizing set with
  | nil => rfl
  | cons token more ih =>
    rw [List.forall_mem_cons] at each
    obtain ⟨n, read⟩ := Option.isSome_iff_exists.mp each.1
    simp only [List.cons_append, addTokens, read, List.filterMap_cons, ih each.2]
    rfl

theorem addTokens_of_resolved (each : ∀ token ∈ list, (resolve token).isSome) (set : NumberSet) :
    addTokens kind resolve list set = (.ok (), set.addAll (list.filterMap resolve)) := by
  simpa [addTokens] using addTokens_append kind each [] set

/-- The token is the first of a list that stands for no number. -/
def FirstUnread (resolve : String → Option Nat) (list : List String) (token : String) : Prop :=
  ∃ before after, list = before ++ token :: after ∧ (∀ t ∈ before, (resolve t).isSome) ∧ resolve token = none

theorem FirstUnread.ne_nil {token : String} (first : FirstUnread resolve list token) : list ≠ [] := by
  obtain ⟨before, after, rfl, -⟩ := first
  simp

theorem exists_firstUnread {token : String} (mem : token ∈ list) (unread : resolve token = none) :
    ∃ first, FirstUnread resolve list first := by
  have found : (list.find? fun t => (resolve t).isNone).isSome := by
    rw [List.find?_isSome]
    exact ⟨token, mem, by simp [unread]⟩
  obtain ⟨first, isFirst⟩ := Option.isSome_iff_exists.mp found
  obtain ⟨none, before, after, split, earlier⟩ := List.find?_eq_some_iff_append.mp isFirst
  exact ⟨first, before, after, split, fun t mem => by simpa using earlier t mem, by simpa using none⟩

theorem addTokens_of_firstUnread {token : String} (first : FirstUnread resolve list token) (set : NumberSet) :
    (addTokens kind resolve list set).1 = .error (.badNumber kind token) := by
  obtain ⟨before, after, rfl, earlier, unread⟩ := first
  rw [addTokens_append kind earlier]
  simp [addTokens, unread]

end Tokens

/-! ## The whole list -/

variable (resolve : String → Option Nat) (mode : Mode) (spec : String)

def Accepted : Prop :=
  unmarked mode spec = "none" ∨ unmarked mode spec = "all" ∨
    tokens (unmarked mode spec) ≠ [] ∧ ∀ token ∈ tokens (unmarked mode spec), (resolve token).isSome

/-- How often a list turns the set round: `all` does it once more than the marks. -/
def rounds : Nat := turns mode spec + if unmarked mode spec = "all" then 1 else 0

/-- The numbers of a list without marks; the words have none. -/
def numbersOf (list : String) : List Nat :=
  if list = "none" ∨ list = "all" then [] else (tokens list).filterMap resolve

theorem addTo_eq_turned (kind : NumberKind) (set : NumberSet) :
    addTo spec kind resolve mode set =
      if unmarked mode spec = "none" then (.ok (), set.turned (turns mode spec))
      else if unmarked mode spec = "all" then (.ok (), set.turned (turns mode spec + 1))
      else
        match tokens (unmarked mode spec) with
        | [] => (.error (.badNumber kind spec), set.turned (turns mode spec))
        | list => addTokens kind resolve list (set.turned (turns mode spec)) := by
  rw [addTo_eq, negations_eq]
  simp only [NumberSet.invertTimes_eq_turned, NumberSet.invert_turned, Text.tokens_eq_splitOn]
  rfl

variable {resolve mode spec}

theorem addTo_of_accepted (accepted : Accepted resolve mode spec) (kind : NumberKind) (set : NumberSet) :
    addTo spec kind resolve mode set =
      (.ok (), (set.turned (rounds mode spec)).addAll (numbersOf resolve (unmarked mode spec))) := by
  rw [addTo_eq_turned]
  unfold rounds numbersOf
  by_cases isNone : unmarked mode spec = "none"
  · simp [isNone, NumberSet.addAll]
  by_cases isAll : unmarked mode spec = "all"
  · simp [isAll, NumberSet.addAll]
  obtain ⟨nonempty, each⟩ := (accepted.resolve_left isNone).resolve_left isAll
  have read := addTokens_of_resolved kind each (set.turned (turns mode spec))
  rw [if_neg isNone, if_neg isAll, if_neg isAll, if_neg (not_or.mpr ⟨isNone, isAll⟩), Nat.add_zero]
  cases list : tokens (unmarked mode spec) with
  | nil => exact absurd list nonempty
  | cons token rest => rw [← list, ← read, list]

theorem addTo_of_refused (refused : ¬ Accepted resolve mode spec) (kind : NumberKind) (set : NumberSet) :
    ∃ token, (addTo spec kind resolve mode set).1 = .error (.badNumber kind token) ∧
      (tokens (unmarked mode spec) = [] ∧ token = spec ∨ FirstUnread resolve (tokens (unmarked mode spec)) token) := by
  unfold Accepted at refused
  simp only [not_or, not_and, not_forall] at refused
  obtain ⟨notNone, notAll, fault⟩ := refused
  rw [addTo_eq_turned, if_neg notNone, if_neg notAll]
  cases list : tokens (unmarked mode spec) with
  | nil => exact ⟨spec, rfl, .inl ⟨rfl, rfl⟩⟩
  | cons token rest =>
    obtain ⟨t, mem, unread⟩ := fault (by simp [list])
    rw [list] at mem
    obtain ⟨first, isFirst⟩ := exists_firstUnread mem (by simpa using unread)
    exact ⟨first, addTokens_of_firstUnread kind isFirst _, .inr isFirst⟩

theorem addTo_ok_iff (kind : NumberKind) (set : NumberSet) :
    (addTo spec kind resolve mode set).1 = .ok () ↔ Accepted resolve mode spec := by
  constructor
  · intro ok
    by_contra refused
    obtain ⟨token, failed, -⟩ := addTo_of_refused refused kind set
    rw [failed] at ok
    cases ok
  · intro accepted
    rw [addTo_of_accepted accepted]

theorem mem_numbersOf_iff {list : String} (n : Nat) :
    n ∈ numbersOf resolve list ↔ list ≠ "none" ∧ list ≠ "all" ∧ ∃ token ∈ tokens list, resolve token = some n := by
  unfold numbersOf
  split
  · simp; tauto
  · next word => simp [List.mem_filterMap, not_or.mp word]

end NumberSpec

end SyscallFilter
