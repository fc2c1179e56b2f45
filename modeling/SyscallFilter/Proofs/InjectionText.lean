import SyscallFilter.Proofs.Injection

/-!
# Injections written as arguments

An injection within its ranges can be written as arguments that read as the same injection. What is read of any
arguments is within the ranges, so that to write it down and read it again changes nothing.
-/

namespace SyscallFilter.Injection

/-! ## Ranges -/

structure InRange (i : Injection) : Prop where
  first : 1 ≤ i.first ∧ i.first ≤ 65535
  step : i.step ≤ 65535
  error : ∀ n, i.result = .error n → 1 ≤ n ∧ n ≤ 4095
  retval : ∀ n, i.result = .retval n → n ≤ 2147483647
  signal : i.signal ≤ 64

/-- The injection is within its ranges, and there is something to inject. -/
structure Valid (i : Injection) : Prop extends InRange i where
  asks : i.result ≠ .unset ∨ i.signal ≠ 0

/-- Nothing is injected that a fault does not know. -/
structure FaultOnly (i : Injection) : Prop where
  noRetval : ∀ n, i.result ≠ .retval n
  noSignal : i.signal = 0

variable {fault : Bool} {token : String} {a : Argument} {i j : Injection}

theorem inRange_default : default.InRange where
  first := by decide
  step := by decide
  error := nofun
  retval := nofun
  signal := by decide

theorem faultOnly_default : default.FaultOnly where
  noRetval n := by simp [default]
  noSignal := rfl

theorem InRange.ask (inRange : i.InRange) (reads : Reads fault token a) : (i.ask a).InRange := by
  obtain ⟨first, step, error, retval, signal⟩ := inRange
  cases reads with
  | once _ _ range => exact ⟨range, Nat.zero_le _, error, retval, signal⟩
  | onwards _ _ range => exact ⟨range, by simp [Injection.ask], error, retval, signal⟩
  | every _ _ range _ stepRange => exact ⟨range, stepRange.2, error, retval, signal⟩
  | errorNumber _ _ range =>
    refine ⟨first, step, ?_, ?_, signal⟩ <;> rintro _ ⟨⟩
    exact range
  | errorName _ named =>
    refine ⟨first, step, ?_, ?_, signal⟩ <;> rintro _ ⟨⟩
    have range := Errno.range_of_named named
    omega
  | retval _ _ _ range =>
    refine ⟨first, step, ?_, ?_, signal⟩ <;> rintro _ ⟨⟩
    exact range
  | signalNumber _ _ _ range => exact ⟨first, step, error, retval, range.2⟩
  | signalName _ _ named =>
    have range := Signal.range_of_named named
    exact ⟨first, step, error, retval, by simp only [Injection.ask]; omega⟩

theorem FaultOnly.ask (faultOnly : i.FaultOnly) (reads : Reads true token a) : (i.ask a).FaultOnly := by
  obtain ⟨noRetval, noSignal⟩ := faultOnly
  cases reads with
  | once | onwards | every => exact ⟨noRetval, noSignal⟩
  | errorNumber | errorName => exact ⟨nofun, noSignal⟩
  | retval inject | signalNumber inject | signalName inject => cases inject

theorem foldlM_keeps {P : Injection → Prop} (keeps : ∀ i token a, P i → Reads fault token a → P (i.ask a))
    {tokens : List String} (start : P i)
    (read : tokens.foldlM (fun (i : Injection) token => i.withArgument? token fault) i = some j) : P j := by
  induction tokens generalizing i with
  | nil =>
    cases read
    exact start
  | cons token rest ih =>
    rw [List.foldlM_cons, Option.bind_eq_bind, Option.bind_eq_some_iff] at read
    obtain ⟨next, first, rest⟩ := read
    obtain ⟨a, reads, -, rfl⟩ := (withArgument?_eq_some_iff _ _ _ _).mp first
    exact ih (keeps i token a start reads) rest

/-! ## What is read -/

/-- Some arguments read as the injection. -/
def Readable (i : Injection) : Prop := ∃ args fault mode, parse? args fault mode = some i

theorem valid_of_readable (readable : i.Readable) : i.Valid := by
  obtain ⟨args, fault, mode, parsed⟩ := readable
  rw [parse?_eq, Option.bind_eq_some_iff] at parsed
  obtain ⟨read, tokens, settled⟩ := parsed
  have inRange : read.InRange := foldlM_keeps (fun _ _ _ => InRange.ask) inRange_default tokens
  split at settled
  · split at settled
    · cases settled
      refine ⟨⟨inRange.first, inRange.step, ?_, by simp, inRange.signal⟩, .inl (by simp)⟩
      rintro _ ⟨⟩
      decide
    · cases settled
  next asks =>
    cases settled
    exact ⟨inRange, by rwa [not_and_or] at asks⟩

theorem faultOnly_of_parse? {args : Option String} {mode : Mode} (parsed : parse? args true mode = some i) :
    i.FaultOnly := by
  rw [parse?_eq, Option.bind_eq_some_iff] at parsed
  obtain ⟨read, tokens, settled⟩ := parsed
  have faultOnly : read.FaultOnly := foldlM_keeps (fun _ _ _ => FaultOnly.ask) faultOnly_default tokens
  split at settled
  · cases settled
    exact ⟨nofun, faultOnly.noSignal⟩
  · cases settled
    exact faultOnly

/-! ## How it is written -/

/-- `F` for once, and else `F+S`. -/
def scheduleText (i : Injection) : String :=
  if i.step = 0 then toString i.first else toString i.first ++ "+" ++ toString i.step

def resultWords : Forced → List String
  | .unset => []
  | .error n => ["error=" ++ toString n]
  | .retval n => ["retval=" ++ toString n]

def signalWords (i : Injection) : List String := if i.signal = 0 then [] else ["signal=" ++ toString i.signal]

def words (i : Injection) : List String := ("when=" ++ i.scheduleText) :: (resultWords i.result ++ i.signalWords)

def text (i : Injection) (mode : Mode) : String := (String.singleton (delimiter mode)).intercalate i.words

example : text ⟨3, 2, .error 5, 0⟩ .clause = "when=3+2:error=5" := by decide +kernel

/-! ## How that is read -/

def resultArguments : Forced → List Argument
  | .unset => []
  | forced => [.result forced]

def signalArguments (i : Injection) : List Argument := if i.signal = 0 then [] else [.signal i.signal]

/-- What the words ask for. -/
def arguments (i : Injection) : List Argument :=
  .schedule i.first i.step :: (resultArguments i.result ++ i.signalArguments)

theorem reads_schedule (inRange : i.InRange) (fault : Bool) :
    Reads fault ("when=" ++ i.scheduleText) (.schedule i.first i.step) := by
  have first := Numeral.spells_toString i.first
  unfold scheduleText
  by_cases once : i.step = 0
  · rw [if_pos once, once]
    exact .once rfl first inRange.first
  · rw [if_neg once]
    have range : 1 ≤ i.step ∧ i.step ≤ 65535 := ⟨by omega, inRange.step⟩
    refine .every ?_ first inRange.first (Numeral.spells_toString i.step) range
    simp only [String.append_assoc]

theorem reads_result (inRange : i.InRange) (faultOnly : fault = true → i.FaultOnly) :
    List.Forall₂ (Reads fault) (resultWords i.result) (resultArguments i.result) := by
  cases result : i.result with
  | unset => exact .nil
  | error n =>
    refine .cons ?_ .nil
    exact .errorNumber rfl (Numeral.spells_toString n) (inRange.error n result)
  | retval n =>
    have inject : fault = false := by
      by_contra isFault
      exact (faultOnly (by simpa using isFault)).noRetval n result
    refine .cons ?_ .nil
    exact .retval inject rfl (Numeral.spells_toString n) (inRange.retval n result)

theorem reads_signal (inRange : i.InRange) (faultOnly : fault = true → i.FaultOnly) :
    List.Forall₂ (Reads fault) i.signalWords i.signalArguments := by
  unfold signalWords signalArguments
  by_cases none : i.signal = 0
  · rw [if_pos none, if_pos none]
    exact .nil
  · have inject : fault = false := by
      by_contra isFault
      exact none (faultOnly (by simpa using isFault)).noSignal
    rw [if_neg none, if_neg none]
    have range : 1 ≤ i.signal ∧ i.signal ≤ 64 := ⟨by omega, inRange.signal⟩
    exact .cons (.signalNumber inject rfl (Numeral.spells_toString i.signal) range) .nil

theorem reads_words (inRange : i.InRange) (faultOnly : fault = true → i.FaultOnly) :
    List.Forall₂ (Reads fault) i.words i.arguments :=
  .cons (reads_schedule inRange fault)
    (List.rel_append (reads_result inRange faultOnly) (reads_signal inRange faultOnly))

theorem ask_arguments (i : Injection) : i.arguments.foldl Injection.ask default = i := by
  obtain ⟨first, step, result, signal⟩ := i
  unfold arguments signalArguments
  cases result <;> by_cases none : signal = 0 <;>
    simp [resultArguments, Injection.ask, default, none]

theorem length_results_arguments (i : Injection) : (results i.arguments).length ≤ 1 := by
  unfold results arguments signalArguments
  cases i.result <;> by_cases none : i.signal = 0 <;>
    simp [resultArguments, Argument.result?, List.filterMap_cons, none]

/-! ## Separators -/

/-- No word is empty, and none has a separator in it. -/
structure Whole (mode : Mode) (word : String) : Prop where
  nonempty : word.toList ≠ []
  plain : delimiter mode ∉ word.toList

theorem whole_append {mode : Mode} {key rest : String} (first : Whole mode key)
    (plain : delimiter mode ∉ rest.toList) : Whole mode (key ++ rest) := by
  refine ⟨?_, ?_⟩
  · simp [first.nonempty]
  · simp [first.plain, plain]

theorem plain_toString (n : Nat) (mode : Mode) : delimiter mode ∉ (toString n).toList := by
  intro mem
  have digit := (Numeral.spells_toString n).2.1 _ mem
  cases mode <;> exact absurd digit (by decide)

theorem plain_scheduleText (i : Injection) (mode : Mode) : delimiter mode ∉ i.scheduleText.toList := by
  have plus : delimiter mode ∉ "+".toList := by cases mode <;> decide
  have first := plain_toString i.first mode
  have step := plain_toString i.step mode
  unfold scheduleText
  split
  · exact first
  · simp only [String.toList_append, List.mem_append, first, plus, step, or_self, not_false_eq_true]

theorem whole_words (i : Injection) (mode : Mode) : ∀ word ∈ i.words, Whole mode word := by
  have key (word : String) (known : word ∈ ["when=", "error=", "retval=", "signal="]) : Whole mode word := by
    constructor <;> cases mode <;> revert word <;> decide
  unfold words signalWords
  rw [List.forall_mem_cons, List.forall_mem_append]
  refine ⟨whole_append (key "when=" (by simp)) (plain_scheduleText i mode), ?_, ?_⟩
  · cases i.result with
    | unset => exact nofun
    | error n =>
      exact List.forall_mem_singleton.mpr (whole_append (key "error=" (by simp)) (plain_toString n mode))
    | retval n =>
      exact List.forall_mem_singleton.mpr (whole_append (key "retval=" (by simp)) (plain_toString n mode))
  · split
    · exact nofun
    · exact List.forall_mem_singleton.mpr (whole_append (key "signal=" (by simp)) (plain_toString i.signal mode))

theorem tokens_text (i : Injection) (mode : Mode) : tokens mode (some (i.text mode)) = i.words := by
  have whole := whole_words i mode
  have split : (i.text mode).toList.splitOn (delimiter mode) = i.words.map String.toList := by
    unfold text
    rw [String.toList_intercalate, String.toList_singleton]
    apply List.splitOn_intercalate
    · simpa using fun word mem => (whole word mem).plain
    · simp [words]
  have nonempty : ∀ cs ∈ i.words.map String.toList, decide (cs ≠ []) = true := by
    simpa using fun word mem => (whole word mem).nonempty
  simp only [tokens, split, List.filter_eq_self.mpr nonempty, List.map_map]
  simp [Function.comp_def]

/-! ## There and back -/

theorem parse?_text_of_valid (valid : i.Valid) (faultOnly : fault = true → i.FaultOnly) (mode : Mode) :
    parse? (some (i.text mode)) fault mode = some i := by
  have asks : ¬ (i.result = .unset ∧ i.signal = 0) := not_and_or.mpr valid.asks
  have read : i.words.foldlM (fun (i : Injection) token => i.withArgument? token fault) default = some i := by
    rw [foldlM_withArgument?_eq_some_iff]
    exact ⟨i.arguments, reads_words valid.toInRange faultOnly, i.length_results_arguments, i.ask_arguments.symm⟩
  rw [parse?_eq, tokens_text, read, Option.bind_some, if_neg asks]

/-! ## What a call is made to return -/

theorem rawValue?_error {n : Nat} (valid : i.Valid) (result : i.result = .error n) :
    ∃ v < 0, i.result.rawValue? = some v := by
  have positive := (valid.error n result).1
  rw [result]
  exact ⟨-n, by omega, rfl⟩

theorem rawValue?_retval {n : Nat} (result : i.result = .retval n) : ∃ v ≥ 0, i.result.rawValue? = some v := by
  rw [result]
  exact ⟨n, by omega, rfl⟩

theorem eq_of_rawValue? {r r' : Forced} (positive : ∀ n, r = .error n → 1 ≤ n) (positive' : ∀ n, r' = .error n → 1 ≤ n)
    (same : r.rawValue? = r'.rawValue?) : r = r' := by
  cases r with
  | unset =>
    cases r' with
    | unset => rfl
    | error | retval => cases same
  | error n =>
    have negative := positive n rfl
    cases r' with
    | unset => cases same
    | error n' =>
      have same : (-n : Int) = -n' := Option.some.inj same
      rw [Forced.error.injEq]
      omega
    | retval n' =>
      have same : (-n : Int) = n' := Option.some.inj same
      omega
  | retval n =>
    cases r' with
    | unset => cases same
    | error n' =>
      have negative := positive' n' rfl
      have same : (n : Int) = -n' := Option.some.inj same
      omega
    | retval n' =>
      have same : (n : Int) = n' := Option.some.inj same
      rw [Forced.retval.injEq]
      omega

/-- An injection can be written down and read again if it is within its ranges, and only such injections are ever read.
Those of a fault have an error and no signal. The values that calls are made to return tell the results apart: an error
gives a negative one. -/
theorem parse?_text (i : Injection) :
    (i.Valid → ∀ mode, parse? (some (i.text mode)) false mode = some i) ∧
    (∀ args fault mode, parse? args fault mode = some i →
      i.Valid ∧ ∀ mode', parse? (some (i.text mode')) false mode' = some i) ∧
    (∀ args mode, parse? args true mode = some i →
      (∃ n, i.result = .error n) ∧ i.signal = 0 ∧ ∀ mode', parse? (some (i.text mode')) true mode' = some i) ∧
    (i.Readable →
      (∀ n, i.result = .error n → ∃ v < 0, i.result.rawValue? = some v) ∧
      (∀ n, i.result = .retval n → ∃ v ≥ 0, i.result.rawValue? = some v) ∧
      ∀ j : Injection, j.Readable → i.result ≠ j.result → i.result.rawValue? ≠ j.result.rawValue?) := by
  refine ⟨fun valid => parse?_text_of_valid valid nofun, ?_, ?_, ?_⟩
  · intro args fault mode parsed
    have valid := valid_of_readable ⟨args, fault, mode, parsed⟩
    exact ⟨valid, parse?_text_of_valid valid nofun⟩
  · intro args mode parsed
    have valid := valid_of_readable ⟨args, true, mode, parsed⟩
    have faultOnly := faultOnly_of_parse? parsed
    refine ⟨?_, faultOnly.noSignal, parse?_text_of_valid valid fun _ => faultOnly⟩
    cases result : i.result with
    | unset =>
      rcases valid.asks with asked | sent
      · exact absurd result asked
      · exact absurd faultOnly.noSignal sent
    | error n => exact ⟨n, rfl⟩
    | retval n => exact absurd result (faultOnly.noRetval n)
  · intro readable
    have valid := valid_of_readable readable
    refine ⟨fun n => rawValue?_error valid, fun n => rawValue?_retval, ?_⟩
    intro j other
    have valid' := valid_of_readable other
    exact mt (eq_of_rawValue? (fun n result => (valid.error n result).1) fun n result => (valid'.error n result).1)

theorem parse?_text_enosys :
    let i : Injection := ⟨7, 0, .error 38, 0⟩
    let j : Injection := ⟨1, 1, .retval 38, 64⟩
    parse? (some "when=7") true .plain = some i ∧
      parse? (some "retval=38:signal=64") false .clause = some j ∧
      i.text .clause = "when=7:error=38" ∧ i.Valid ∧
      parse? (some "when=7:error=38") false .clause = some i ∧
      parse? (some "when=7:error=38") true .clause = some i ∧
      (∃ v < 0, i.result.rawValue? = some v) ∧ i.result.rawValue? ≠ j.result.rawValue? := by
  intro i j
  have parsed : parse? (some "when=7") true .plain = some i := by decide +kernel
  have parsed' : parse? (some "retval=38:signal=64") false .clause = some j := by decide +kernel
  have text : i.text .clause = "when=7:error=38" := by decide +kernel
  obtain ⟨roundTrip, read, ofFault, raw⟩ := parse?_text i
  obtain ⟨valid, -⟩ := read _ _ _ parsed
  obtain ⟨-, -, again⟩ := ofFault _ _ parsed
  obtain ⟨negative, -, apart⟩ := raw ⟨_, _, _, parsed⟩
  refine ⟨parsed, parsed', text, valid, ?_, ?_, negative 38 rfl, apart j ⟨_, _, _, parsed'⟩ (by decide)⟩
  · rw [← text]
    exact roundTrip valid .clause
  · rw [← text]
    exact again .clause

end SyscallFilter.Injection
