import Mathlib.Data.List.Forall2
import SyscallFilter.Injection
import SyscallFilter.Proofs.Name
import SyscallFilter.Proofs.Text

/-!
# The arguments of an injection

`Reads` is the grammar of one argument. A text is accepted if each of its tokens reads as an argument, no two of
them force a result and, but for a fault, something is injected. Later schedules and signals replace earlier ones.
-/

namespace SyscallFilter

namespace Injection

open Numeral (Spells)

/-! ## One argument -/

/-- What one argument asks for. -/
inductive Argument where
  | schedule (first step : Nat)
  | result (forced : Forced)
  | signal (n : Nat)
  deriving DecidableEq

/-- A fault only knows when to fail and with which error. -/
inductive Reads (fault : Bool) (token : String) : Argument → Prop
  | once {f : String} {first : Nat} (text : token = "when=" ++ f)
      (numeral : Spells f first) (range : 1 ≤ first ∧ first ≤ 65535) : Reads fault token (.schedule first 0)
  | onwards {f : String} {first : Nat} (text : token = "when=" ++ f ++ "+")
      (numeral : Spells f first) (range : 1 ≤ first ∧ first ≤ 65535) : Reads fault token (.schedule first 1)
  | every {f s : String} {first step : Nat} (text : token = "when=" ++ f ++ "+" ++ s)
      (numeral : Spells f first) (range : 1 ≤ first ∧ first ≤ 65535)
      (stepNumeral : Spells s step) (stepRange : 1 ≤ step ∧ step ≤ 65535) :
      Reads fault token (.schedule first step)
  | errorNumber {v : String} {n : Nat} (text : token = "error=" ++ v)
      (numeral : Spells v n) (range : 1 ≤ n ∧ n ≤ 4095) : Reads fault token (.result (.error n))
  | errorName {v : String} {n : Nat} (text : token = "error=" ++ v) (named : Errno.Named v n) :
      Reads fault token (.result (.error n))
  | retval {v : String} {n : Nat} (inject : fault = false) (text : token = "retval=" ++ v)
      (numeral : Spells v n) (range : n ≤ 2147483647) : Reads fault token (.result (.retval n))
  | signalNumber {v : String} {n : Nat} (inject : fault = false) (text : token = "signal=" ++ v)
      (numeral : Spells v n) (range : 1 ≤ n ∧ n ≤ 64) : Reads fault token (.signal n)
  | signalName {v : String} {n : Nat} (inject : fault = false) (text : token = "signal=" ++ v)
      (named : Signal.Named v n) : Reads fault token (.signal n)

theorem occurrence?_eq_some_iff (text : String) (n : Nat) :
    occurrence? text = some n ↔ Spells text n ∧ 1 ≤ n ∧ n ≤ 65535 := by
  unfold occurrence?
  rw [Option.filter_eq_some_iff, Numeral.upTo_eq_some_iff, maxOccurrence, decide_eq_true_iff, and_assoc,
    and_comm (a := n ≤ 65535)]

theorem plus_not_mem_of_spells {text : String} {n : Nat} (numeral : Spells text n) : '+' ∉ text.toList :=
  fun mem => absurd (numeral.2.1 '+' mem) (by decide)

theorem toList_plus (f s : String) : (f ++ "+" ++ s).toList = f.toList ++ '+' :: s.toList := by
  simp

theorem schedule?_of_plain {value : String} (plain : '+' ∉ value.toList) (first step : Nat) :
    schedule? value = some (first, step) ↔ occurrence? value = some first ∧ step = 0 := by
  unfold schedule?
  rw [(Text.cut_eq_none_iff '+' value).mpr plain]
  simp only [Option.map_eq_some_iff, Prod.mk.injEq]
  constructor
  · rintro ⟨n, read, rfl, rfl⟩
    exact ⟨read, rfl⟩
  · rintro ⟨read, rfl⟩
    exact ⟨first, read, rfl, rfl⟩

theorem schedule?_of_plus {f : String} (plain : '+' ∉ f.toList) (s : String) (first step : Nat) :
    schedule? (f ++ "+" ++ s) = some (first, step) ↔
      occurrence? f = some first ∧ (if s = "" then some 1 else occurrence? s) = some step := by
  have cut : Text.cut '+' (f ++ "+" ++ s) = some (f, s) :=
    (Text.cut_eq_some_iff '+' _ f s).mpr ⟨toList_plus f s, plain⟩
  unfold schedule?
  rw [cut]
  by_cases empty : s = ""
  · simp [empty, Option.bind_eq_some_iff]
  · simp [empty, Option.bind_eq_some_iff]

theorem reads_when_iff (fault : Bool) (value : String) (a : Argument) :
    Reads fault ("when=" ++ value) a ↔
      ∃ first step, schedule? value = some (first, step) ∧ a = .schedule first step := by
  constructor
  · intro reads
    cases reads with
    | @once f first text numeral range =>
      obtain rfl : value = f := by simpa [String.append_right_inj] using text
      have read := (occurrence?_eq_some_iff value first).mpr ⟨numeral, range⟩
      exact ⟨first, 0, (schedule?_of_plain (plus_not_mem_of_spells numeral) first 0).mpr ⟨read, rfl⟩, rfl⟩
    | @onwards f first text numeral range =>
      obtain rfl : value = f ++ "+" ++ "" := by
        simpa only [String.append_assoc, String.append_right_inj, String.append_empty] using text
      have read := (occurrence?_eq_some_iff f first).mpr ⟨numeral, range⟩
      exact ⟨first, 1, (schedule?_of_plus (plus_not_mem_of_spells numeral) "" first 1).mpr ⟨read, rfl⟩, rfl⟩
    | @every f s first step text numeral range stepNumeral stepRange =>
      obtain rfl : value = f ++ "+" ++ s := by
        simpa only [String.append_assoc, String.append_right_inj] using text
      have read := (occurrence?_eq_some_iff f first).mpr ⟨numeral, range⟩
      have readStep := (occurrence?_eq_some_iff s step).mpr ⟨stepNumeral, stepRange⟩
      have nonempty : s ≠ "" := by
        rintro rfl
        exact stepNumeral.1 rfl
      refine ⟨first, step, (schedule?_of_plus (plus_not_mem_of_spells numeral) s first step).mpr ⟨read, ?_⟩, rfl⟩
      rw [if_neg nonempty, readStep]
    | errorNumber text | errorName text | retval _ text | signalNumber _ text | signalName _ text =>
      simp [String.ext_iff] at text
  · rintro ⟨first, step, read, rfl⟩
    by_cases plain : '+' ∈ value.toList
    · obtain ⟨before, after, split, absent⟩ := List.eq_append_cons_of_mem plain
      obtain rfl : value = String.ofList before ++ "+" ++ String.ofList after := by
        simp [String.ext_iff, split]
      rw [schedule?_of_plus (by simpa using absent), occurrence?_eq_some_iff] at read
      obtain ⟨⟨numeral, range⟩, readStep⟩ := read
      split at readStep
      next empty =>
        cases readStep
        refine .onwards ?_ numeral range
        rw [empty, String.append_empty, String.append_assoc]
      next =>
        obtain ⟨stepNumeral, stepRange⟩ := (occurrence?_eq_some_iff _ _).mp readStep
        refine .every ?_ numeral range stepNumeral stepRange
        simp only [String.append_assoc]
    · rw [schedule?_of_plain plain, occurrence?_eq_some_iff] at read
      obtain ⟨⟨numeral, range⟩, rfl⟩ := read
      exact .once rfl numeral range

theorem reads_error_iff (fault : Bool) (value : String) (a : Argument) :
    Reads fault ("error=" ++ value) a ↔ ∃ n, Errno.parse? value = some n ∧ a = .result (.error n) := by
  simp only [Errno.parse?_eq_some_iff]
  constructor
  · intro reads
    cases reads with
    | errorNumber text numeral range =>
      obtain rfl := (String.append_right_inj _).mp text
      exact ⟨_, .inl ⟨numeral, range⟩, rfl⟩
    | errorName text named =>
      obtain rfl := (String.append_right_inj _).mp text
      exact ⟨_, .inr named, rfl⟩
    | once text | onwards text | every text | retval _ text | signalNumber _ text | signalName _ text =>
      simp [String.ext_iff] at text
  · rintro ⟨n, ⟨numeral, range⟩ | named, rfl⟩
    · exact .errorNumber rfl numeral range
    · exact .errorName rfl named

theorem reads_retval_iff (fault : Bool) (value : String) (a : Argument) :
    Reads fault ("retval=" ++ value) a ↔
      fault = false ∧ ∃ n, Numeral.number? value = some n ∧ a = .result (.retval n) := by
  simp only [Numeral.number?_eq_some_iff]
  constructor
  · intro reads
    cases reads with
    | retval inject text numeral range =>
      obtain rfl := (String.append_right_inj _).mp text
      exact ⟨inject, _, ⟨numeral, range⟩, rfl⟩
    | once text | onwards text | every text | errorNumber text | errorName text | signalNumber _ text
    | signalName _ text =>
      simp [String.ext_iff] at text
  · rintro ⟨inject, n, ⟨numeral, range⟩, rfl⟩
    exact .retval inject rfl numeral range

theorem reads_signal_iff (fault : Bool) (value : String) (a : Argument) :
    Reads fault ("signal=" ++ value) a ↔
      fault = false ∧ ∃ n, (Signal.parse? value).filter (fun n => 1 ≤ n && n ≤ Signal.maxSignal) = some n ∧
        a = .signal n := by
  simp only [Signal.parse?_filter_eq_some_iff]
  constructor
  · intro reads
    cases reads with
    | signalNumber inject text numeral range =>
      obtain rfl := (String.append_right_inj _).mp text
      exact ⟨inject, _, .inl ⟨numeral, range⟩, rfl⟩
    | signalName inject text named =>
      obtain rfl := (String.append_right_inj _).mp text
      exact ⟨inject, _, .inr named, rfl⟩
    | once text | onwards text | every text | errorNumber text | errorName text | retval _ text =>
      simp [String.ext_iff] at text
  · rintro ⟨inject, n, ⟨numeral, range⟩ | named, rfl⟩
    · exact .signalNumber inject rfl numeral range
    · exact .signalName inject rfl named

theorem Reads.key {fault : Bool} {token : String} {a : Argument} (reads : Reads fault token a) :
    ∃ key value, Text.cut '=' token = some (key, value) ∧
      (key = "when" ∨ key = "error" ∨ fault = false ∧ (key = "retval" ∨ key = "signal")) := by
  have cut (key value : String) (plain : '=' ∉ key.toList) (text : token = key ++ "=" ++ value) :
      Text.cut '=' token = some (key, value) :=
    (Text.cut_eq_some_iff '=' token key value).mpr ⟨by simp [text], plain⟩
  cases reads with
  | once text =>
    exact ⟨"when", _, cut "when" _ (by decide) text, .inl rfl⟩
  | onwards text =>
    rw [String.append_assoc] at text
    exact ⟨"when", _, cut "when" _ (by decide) text, .inl rfl⟩
  | every text =>
    rw [String.append_assoc, String.append_assoc] at text
    exact ⟨"when", _, cut "when" _ (by decide) text, .inl rfl⟩
  | errorNumber text | errorName text =>
    exact ⟨"error", _, cut "error" _ (by decide) text, .inr (.inl rfl)⟩
  | retval inject text =>
    exact ⟨"retval", _, cut "retval" _ (by decide) text, .inr (.inr ⟨inject, .inl rfl⟩)⟩
  | signalNumber inject text | signalName inject text =>
    exact ⟨"signal", _, cut "signal" _ (by decide) text, .inr (.inr ⟨inject, .inr rfl⟩)⟩

/-! ## One argument after the others -/

/-- The injection with one more argument. -/
def ask (i : Injection) : Argument → Injection
  | .schedule first step => { i with first, step }
  | .result forced => { i with result := forced }
  | .signal n => { i with signal := n }

def Argument.schedule? : Argument → Option (Nat × Nat)
  | schedule first step => some (first, step)
  | _ => none

def Argument.result? : Argument → Option Forced
  | result forced => some forced
  | _ => none

def Argument.signal? : Argument → Option Nat
  | signal n => some n
  | _ => none

theorem force?_eq_some_iff (i j : Injection) (forced : Forced) :
    i.force? forced = some j ↔ i.result = .unset ∧ j = { i with result := forced } := by
  unfold force?
  split
  next unset => simp [unset, eq_comm]
  next already => simp [already]

theorem withArgument?_eq_some_iff (i j : Injection) (token : String) (fault : Bool) :
    i.withArgument? token fault = some j ↔
      ∃ a, Reads fault token a ∧ (a.result?.isSome → i.result = .unset) ∧ j = i.ask a := by
  unfold withArgument?
  cases found : Text.cut '=' token with
  | none =>
    simp only [reduceCtorEq, false_iff, not_exists, not_and]
    rintro a reads
    obtain ⟨key, value, cut, -⟩ := reads.key
    rw [found] at cut
    cases cut
  | some parts =>
    obtain ⟨key, value⟩ := parts
    obtain ⟨split, absent⟩ := (Text.cut_eq_some_iff '=' token key value).mp found
    obtain rfl : token = key ++ "=" ++ value := by simp [String.ext_iff, split]
    dsimp only
    split
    next =>
      have reads : ∀ a, Reads fault ("when" ++ "=" ++ value) a ↔ _ := reads_when_iff fault value
      simp only [reads, Option.map_eq_some_iff, Prod.exists]
      constructor
      · rintro ⟨first, step, read, rfl⟩
        exact ⟨_, ⟨first, step, read, rfl⟩, nofun, rfl⟩
      · rintro ⟨_, ⟨first, step, read, rfl⟩, -, rfl⟩
        exact ⟨first, step, read, rfl⟩
    next =>
      have reads : ∀ a, Reads fault ("error" ++ "=" ++ value) a ↔ _ := reads_error_iff fault value
      simp only [reads, Option.bind_eq_some_iff, force?_eq_some_iff]
      constructor
      · rintro ⟨n, read, unset, rfl⟩
        exact ⟨_, ⟨n, read, rfl⟩, fun _ => unset, rfl⟩
      · rintro ⟨_, ⟨n, read, rfl⟩, unset, rfl⟩
        exact ⟨n, read, unset rfl, rfl⟩
    next =>
      have reads : ∀ a, Reads false ("retval" ++ "=" ++ value) a ↔ _ := reads_retval_iff false value
      simp only [reads, true_and, Option.bind_eq_some_iff, force?_eq_some_iff]
      constructor
      · rintro ⟨n, read, unset, rfl⟩
        exact ⟨_, ⟨n, read, rfl⟩, fun _ => unset, rfl⟩
      · rintro ⟨_, ⟨n, read, rfl⟩, unset, rfl⟩
        exact ⟨n, read, unset rfl, rfl⟩
    next =>
      have reads : ∀ a, Reads false ("signal" ++ "=" ++ value) a ↔ _ := reads_signal_iff false value
      simp only [reads, true_and, Option.map_eq_some_iff]
      constructor
      · rintro ⟨n, read, rfl⟩
        exact ⟨_, ⟨n, read, rfl⟩, nofun, rfl⟩
      · rintro ⟨_, ⟨n, read, rfl⟩, -, rfl⟩
        exact ⟨n, read, rfl⟩
    next noWhen noError noRetval noSignal =>
      simp only [reduceCtorEq, false_iff, not_exists, not_and]
      rintro a reads
      obtain ⟨key', value', cut, keys⟩ := reads.key
      rw [found] at cut
      obtain ⟨rfl, -⟩ := Prod.mk.inj (Option.some.inj cut)
      rcases keys with isWhen | isError | ⟨inject, isRetval | isSignal⟩
      · exact absurd isWhen noWhen
      · exact absurd isError noError
      · exact absurd inject (noRetval isRetval)
      · exact absurd inject (noSignal isSignal)

/-! ## All arguments -/

/-- The results that are asked for, and likewise below. -/
def results (as : List Argument) : List Forced := as.filterMap Argument.result?

def schedules (as : List Argument) : List (Nat × Nat) := as.filterMap Argument.schedule?

def signals (as : List Argument) : List Nat := as.filterMap Argument.signal?

theorem foldl_ask (as : List Argument) (i : Injection) :
    as.foldl ask i =
      { first := ((schedules as).getLast?.getD (i.first, i.step)).1
        step := ((schedules as).getLast?.getD (i.first, i.step)).2
        result := (results as).getLast?.getD i.result
        signal := (signals as).getLast?.getD i.signal } := by
  induction as generalizing i with
  | nil => rfl
  | cons a as ih =>
    rw [List.foldl_cons, ih]
    cases a <;> simp [schedules, results, signals, ask, Argument.schedule?, Argument.result?, Argument.signal?,
      List.filterMap_cons, List.getLast?_cons]

/-- Room for one more result. -/
def room (i : Injection) : Nat := if i.result = .unset then 1 else 0

theorem Reads.result_ne_unset {fault : Bool} {token : String} {forced : Forced}
    (reads : Reads fault token (.result forced)) : forced ≠ .unset := by
  cases reads <;> nofun

theorem length_results_cons_le_iff {fault : Bool} {token : String} {a : Argument} (reads : Reads fault token a)
    (i : Injection) (as : List Argument) :
    (results (a :: as)).length ≤ i.room ↔
      (a.result?.isSome → i.result = .unset) ∧ (results as).length ≤ (i.ask a).room := by
  cases a with
  | schedule first step =>
    have same : (i.ask (.schedule first step)).room = i.room := rfl
    simp [results, List.filterMap_cons, Argument.result?, same]
  | signal n =>
    have same : (i.ask (.signal n)).room = i.room := rfl
    simp [results, List.filterMap_cons, Argument.result?, same]
  | result forced =>
    have full : (i.ask (.result forced)).room = 0 := if_neg reads.result_ne_unset
    unfold room at full ⊢
    by_cases unset : i.result = .unset <;> simp [results, Argument.result?, full, unset]

theorem foldlM_withArgument?_eq_some_iff (tokens : List String) (fault : Bool) (i j : Injection) :
    tokens.foldlM (fun (i : Injection) token => i.withArgument? token fault) i = some j ↔
      ∃ as, List.Forall₂ (Reads fault) tokens as ∧ (results as).length ≤ i.room ∧ j = as.foldl ask i := by
  induction tokens generalizing i with
  | nil => simp [results, eq_comm]
  | cons token rest ih =>
    simp only [List.foldlM_cons, Option.bind_eq_bind, Option.bind_eq_some_iff, withArgument?_eq_some_iff, ih,
      List.forall₂_cons_left_iff]
    constructor
    · rintro ⟨_, ⟨a, reads, unset, rfl⟩, as, all, few, rfl⟩
      exact ⟨a :: as, ⟨a, as, reads, all, rfl⟩, (length_results_cons_le_iff reads i as).mpr ⟨unset, few⟩, rfl⟩
    · rintro ⟨_, ⟨a, as, reads, all, rfl⟩, few, rfl⟩
      obtain ⟨unset, few⟩ := (length_results_cons_le_iff reads i as).mp few
      exact ⟨i.ask a, ⟨a, reads, unset, rfl⟩, as, all, few, rfl⟩

/-! ## The whole text -/

/-- The tokens between separators, if there is a text. -/
def tokens (mode : Mode) (args : Option String) : List String :=
  match args with
  | none => []
  | some text => ((text.toList.splitOn (delimiter mode)).filter (· ≠ [])).map String.ofList

theorem parse?_eq (args : Option String) (fault : Bool) (mode : Mode) :
    parse? args fault mode =
      ((tokens mode args).foldlM (fun (i : Injection) token => i.withArgument? token fault) default).bind fun i =>
        if i.result = .unset ∧ i.signal = 0 then
          if fault then some { i with result := .error Errno.enosys } else none
        else some i := by
  cases args with
  | none => rfl
  | some text =>
    unfold parse? tokens
    rw [Option.map_some, Option.getD_some, Text.tokens_eq_splitOn]
    rfl

section Read

variable {fault : Bool} {list : List String} {as : List Argument}

theorem exists_reads (all : List.Forall₂ (Reads fault) list as) {a : Argument} (mem : a ∈ as) :
    ∃ token, Reads fault token a := by
  induction all with
  | nil => cases mem
  | @cons token b _ _ reads _ ih =>
    rcases List.mem_cons.mp mem with rfl | mem
    · exact ⟨token, reads⟩
    · exact ih mem

theorem result_ne_unset (all : List.Forall₂ (Reads fault) list as) {forced : Forced}
    (mem : forced ∈ results as) : forced ≠ .unset := by
  obtain ⟨a, mem, asked⟩ := List.mem_filterMap.mp mem
  obtain ⟨token, reads⟩ := exists_reads all mem
  cases a with
  | result forced =>
    cases asked
    exact reads.result_ne_unset
  | schedule | signal => cases asked

theorem signal_ne_zero (all : List.Forall₂ (Reads fault) list as) {n : Nat} (mem : n ∈ signals as) :
    n ≠ 0 ∧ fault = false := by
  obtain ⟨a, mem, asked⟩ := List.mem_filterMap.mp mem
  obtain ⟨token, reads⟩ := exists_reads all mem
  cases a with
  | signal n =>
    cases asked
    cases reads with
    | signalNumber inject _ _ range => exact ⟨by omega, inject⟩
    | signalName inject _ named => exact ⟨by have := Signal.range_of_named named; omega, inject⟩
  | schedule | result => cases asked

theorem getD_getLast?_eq_iff {α : Type} {xs : List α} {x : α} (other : ∀ y ∈ xs, y ≠ x) :
    xs.getLast?.getD x = x ↔ xs = [] := by
  cases last : xs.getLast? with
  | none => simpa using last
  | some y =>
    have mem : y ∈ xs := List.mem_of_getLast? last
    simp [other y mem, List.ne_nil_of_mem mem]

theorem settled_iff (all : List.Forall₂ (Reads fault) list as) (i : Injection) :
    let read := as.foldl ask default
    (if read.result = .unset ∧ read.signal = 0 then
        if fault then some { read with result := .error Errno.enosys } else none
      else some read) = some i ↔
      (fault = false → results as ≠ [] ∨ signals as ≠ []) ∧
        (i.first, i.step) = (schedules as).getLast?.getD (1, 1) ∧
        i.result = (results as).getLast?.getD (if fault then .error Errno.enosys else .unset) ∧
        i.signal = (signals as).getLast?.getD 0 := by
  intro read
  have unset : read.result = .unset ↔ results as = [] := by
    simp only [read, foldl_ask]
    exact getD_getLast?_eq_iff fun forced mem => result_ne_unset all mem
  have zero : read.signal = 0 ↔ signals as = [] := by
    simp only [read, foldl_ask]
    exact getD_getLast?_eq_iff fun n mem => (signal_ne_zero all mem).1
  by_cases none : results as = [] ∧ signals as = []
  · rw [if_pos ⟨unset.mpr none.1, zero.mpr none.2⟩]
    cases fault with
    | false => simp [none]
    | true =>
      cases i
      simp [read, foldl_ask, none, default, Prod.ext_iff, eq_comm, and_assoc]
  · rw [if_neg (by rw [unset, zero]; exact none)]
    have asks : results as ≠ [] ∨ signals as ≠ [] := by rwa [not_and_or] at none
    have result : (results as).getLast?.getD .unset =
        (results as).getLast?.getD (if fault then .error Errno.enosys else .unset) := by
      cases last : (results as).getLast? with
      | some forced => rfl
      | none =>
        obtain ⟨n, mem⟩ := List.exists_mem_of_ne_nil _ (asks.resolve_left (by simpa using last))
        simp [(signal_ne_zero all mem).2]
    rw [← result, and_iff_right fun _ => asks]
    cases i
    simp [read, foldl_ask, default, Prod.ext_iff, eq_comm, and_assoc]

end Read

/-- Which texts are accepted, and what they come to. -/
theorem parse?_grammar (args : Option String) (fault : Bool) (mode : Mode) (i : Injection) :
    parse? args fault mode = some i ↔
      ∃ as, List.Forall₂ (Reads fault) (tokens mode args) as ∧
        (results as).length ≤ 1 ∧
        (fault = false → results as ≠ [] ∨ signals as ≠ []) ∧
        (i.first, i.step) = (schedules as).getLast?.getD (1, 1) ∧
        i.result = (results as).getLast?.getD (if fault then .error Errno.enosys else .unset) ∧
        i.signal = (signals as).getLast?.getD 0 := by
  rw [parse?_eq, Option.bind_eq_some_iff]
  simp only [foldlM_withArgument?_eq_some_iff]
  constructor
  · rintro ⟨_, ⟨as, all, few, rfl⟩, settled⟩
    exact ⟨as, all, few, (settled_iff all i).mp settled⟩
  · rintro ⟨as, all, few, settled⟩
    exact ⟨_, ⟨as, all, few, rfl⟩, (settled_iff all i).mpr settled⟩

-- Schedules replace each other, and a second result is refused even where it is the same.
example : parse? (some "when=3+2::error=eio:when=7+") false .clause = some ⟨7, 1, .error 5, 0⟩ := by decide +kernel
example : parse? (some "error=EIO;error=5") true .plain = none := by decide +kernel

end Injection

end SyscallFilter
