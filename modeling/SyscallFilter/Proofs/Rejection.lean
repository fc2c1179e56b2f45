import SyscallFilter.Proofs.Clause
import SyscallFilter.Proofs.NumberSet

/-!
# Which clauses are rejected, and what they leave behind

Whether a clause is accepted does not depend on what was configured before it. A rejected clause leaves nothing, unless
it is a clause about signals: these are forgotten before the list is read, and what was read of it stays.
-/

namespace SyscallFilter

/-! ## Lists of numbers -/

namespace NumberSpec

/-- The numbers that tokens stand for, up to the first token that stands for none. -/
def readable (resolve : String → Option Nat) : List String → List Nat
  | [] => []
  | token :: rest =>
    match resolve token with
    | some n => n :: readable resolve rest
    | none => []

theorem addTokens_snd (kind : NumberKind) (resolve : String → Option Nat) (tokens : List String)
    (set : NumberSet) : (addTokens kind resolve tokens set).2 = set.addAll (readable resolve tokens) := by
  induction tokens generalizing set with
  | nil => rfl
  | cons token rest ih =>
    unfold addTokens readable
    cases resolve token with
    | none => rfl
    | some n => exact ih (set.add n)

theorem addTo_eq (spec : String) (kind : NumberKind) (resolve : String → Option Nat) (mode : Mode)
    (set : NumberSet) :
    addTo spec kind resolve mode set =
      if (mode.negations spec).2 = "none" then (.ok (), set.invertTimes (mode.negations spec).1)
      else if (mode.negations spec).2 = "all" then (.ok (), (set.invertTimes (mode.negations spec).1).invert)
      else
        match Text.tokens ',' (mode.negations spec).2 with
        | [] => (.error (.badNumber kind spec), set.invertTimes (mode.negations spec).1)
        | tokens => addTokens kind resolve tokens (set.invertTimes (mode.negations spec).1) := rfl

theorem addTo_of_error {spec : String} {kind : NumberKind} {resolve : String → Option Nat} {mode : Mode}
    {set : NumberSet} {e : ClauseError} (rejected : (addTo spec kind resolve mode set).1 = .error e) :
    (addTo spec kind resolve mode set).2 =
      (set.invertTimes (mode.negations spec).1).addAll
        (readable resolve (Text.tokens ',' (mode.negations spec).2)) := by
  rw [addTo_eq] at rejected ⊢
  split at rejected
  · cases rejected
  next notNone =>
    split at rejected
    · cases rejected
    next notAll =>
      rw [if_neg notNone, if_neg notAll]
      cases Text.tokens ',' (mode.negations spec).2 with
      | nil => rfl
      | cons token rest => exact addTokens_snd kind resolve (token :: rest) _

theorem addTokens_fst (kind : NumberKind) (resolve : String → Option Nat) (tokens : List String)
    (set set' : NumberSet) : (addTokens kind resolve tokens set).1 = (addTokens kind resolve tokens set').1 := by
  induction tokens generalizing set set' with
  | nil => rfl
  | cons token rest ih =>
    unfold addTokens
    cases resolve token with
    | none => rfl
    | some n => exact ih (set.add n) (set'.add n)

theorem addTo_fst (spec : String) (kind : NumberKind) (resolve : String → Option Nat) (mode : Mode)
    (set set' : NumberSet) : (addTo spec kind resolve mode set).1 = (addTo spec kind resolve mode set').1 := by
  rw [addTo_eq, addTo_eq]
  split
  · rfl
  split
  · rfl
  cases Text.tokens ',' (mode.negations spec).2 with
  | nil => rfl
  | cons token rest => exact addTokens_fst kind resolve (token :: rest) _ _

end NumberSpec

/-! ## Verdicts -/

/-- What becomes of a clause, whatever was configured before. -/
def Clause.verdict (p : Personalities) (c : Clause) : Except ClauseError Unit :=
  match Qualifier.ofName? c.name with
  | none => .error (.unknownAction c.name)
  | some .signals => (NumberSpec.addTo c.main .signal Signal.parse? .clause .empty).1
  | some (.action k) => (c.rule k p).map fun _ => ()

namespace Builder

theorem apply_result (b : Builder) (c : Clause) : (b.apply c).result = c.verdict b.personalities := by
  unfold Clause.verdict
  cases name : Qualifier.ofName? c.name with
  | none => exact (b.apply_unknown c name).1
  | some q =>
    cases q with
    | signals => exact (b.apply_signals c name).1.trans (NumberSpec.addTo_fst _ _ _ _ _ _)
    | action k =>
      have entered := b.apply_action c name
      show (b.apply c).result = (c.rule k b.personalities).map fun _ => ()
      cases rule : c.rule k b.personalities <;> rw [rule] at entered
      · exact entered.1
      · exact entered.1

end Builder

/-! ## Signals -/

/-- The signals that are read of a clause about signals, up to the first word that is none. -/
def Clause.signalsRead (c : Clause) : List Nat :=
  NumberSpec.readable Signal.parse? (Text.tokens ',' (Mode.clause.negations c.main).2)

/-- The signals are already those that would be read of the clause. -/
def Builder.AlreadyReads (b : Builder) (c : Clause) : Prop :=
  (∀ n, n ∈ b.signals.bits ↔ n ∈ c.signalsRead) ∧
    b.signals.inverted = decide ((Mode.clause.negations c.main).1 % 2 = 1)

namespace Builder

theorem signalsAfter_of_rejected {b : Builder} {c : Clause} {e : ClauseError}
    (rejected : (b.signalsAfter c.main).1 = .error e) :
    (∀ n, n ∈ (b.signalsAfter c.main).2.bits ↔ n ∈ c.signalsRead) ∧
      (b.signalsAfter c.main).2.inverted = decide ((Mode.clause.negations c.main).1 % 2 = 1) ∧
      ((∀ n ∈ c.signalsRead, n / 32 < b.signals.words) →
        (b.signalsAfter c.main).2.words = b.signals.words) := by
  have left : (b.signalsAfter c.main).2 =
      (b.signals.clear.invertTimes (Mode.clause.negations c.main).1).addAll c.signalsRead :=
    NumberSpec.addTo_of_error rejected
  rw [left]
  refine ⟨?_, ?_, ?_⟩
  · intro n
    rw [NumberSet.mem_bits_addAll, NumberSet.bits_invertTimes]
    exact or_iff_left List.not_mem_nil
  · rw [NumberSet.inverted_addAll, NumberSet.inverted_invertTimes]
    exact Bool.false_xor _
  · intro fits
    rw [NumberSet.words_addAll, NumberSet.words_invertTimes]
    · rfl
    · rw [NumberSet.words_invertTimes]
      exact fits

theorem signalsAfter_eq_iff {b : Builder} {c : Clause} {e : ClauseError}
    (rejected : (b.signalsAfter c.main).1 = .error e) :
    (b.signalsAfter c.main).2 = b.signals ↔ b.AlreadyReads c := by
  obtain ⟨hbits, hinverted, hwords⟩ := signalsAfter_of_rejected rejected
  constructor
  · intro same
    rw [same] at hbits hinverted
    exact ⟨hbits, hinverted⟩
  · rintro ⟨bits, inverted⟩
    refine NumberSet.eq_of_mem_iff ?_ ?_ (hinverted.trans inverted.symm)
    · intro n
      rw [hbits, bits]
    · -- What was read is in the set already, so there is a word for it.
      exact hwords fun n hn => b.signals.fits n ((bits n).mpr hn)

end Builder

theorem NumberSet.contains_ext {s t : NumberSet} (same : ∀ n, s.contains n = t.contains n) :
    (∀ n, n ∈ s.bits ↔ n ∈ t.bits) ∧ s.inverted = t.inverted := by
  -- A number that neither has a word for tells the polarities apart.
  have beyond : ∀ u : NumberSet, u.words ≤ s.words + t.words →
      u.contains (32 * (s.words + t.words)) = u.inverted := by
    intro u hu
    have absent : 32 * (s.words + t.words) ∉ u.bits := by
      intro h
      have := u.fits _ h
      omega
    unfold contains
    rw [List.contains_eq_mem, decide_eq_false absent, Bool.false_xor]
  have inverted : s.inverted = t.inverted := by
    rw [← beyond s (by omega), ← beyond t (by omega)]
    exact same _
  refine ⟨?_, inverted⟩
  intro n
  have h := same n
  unfold contains at h
  rw [inverted, Bool.xor_left_inj, List.contains_eq_mem, List.contains_eq_mem, decide_eq_decide] at h
  exact h

/-! ## The engine afterwards -/

namespace Builder

theorem findOrAdd_signals (b : Builder) (s : NumberSet) (k : ActionKind) :
    { b with signals := s }.findOrAdd k =
      ((b.findOrAdd k).1, { (b.findOrAdd k).2.1 with signals := s }, (b.findOrAdd k).2.2) := by
  unfold findOrAdd
  dsimp only
  split <;> rfl

theorem finish_signals (b : Builder) (s : NumberSet) :
    { b with signals := s }.finish.1 = { b.finish.1 with signals := s } := by
  unfold finish
  dsimp only
  split
  · rfl
  · unfold limitToPaths
    rw [findOrAdd_signals]
    rfl

theorem tracesSignal_finish (b : Builder) (n : Nat) : b.finish.1.tracesSignal n = b.signals.contains n := by
  have := b.finish_signals b.signals
  exact congrArg (fun e : Engine => e.signals.contains n) this

theorem state_of_rejected {b : Builder} {c : Clause} {e : ClauseError}
    (rejected : (b.apply c).result = .error e) :
    (Qualifier.ofName? c.name = some .signals ∧ (b.signalsAfter c.main).1 = .error e ∧
        (b.apply c).state = { b with signals := (b.signalsAfter c.main).2 }) ∨
      (Qualifier.ofName? c.name ≠ some .signals ∧ (b.apply c).state = b) := by
  cases name : Qualifier.ofName? c.name with
  | none => exact .inr ⟨by simp, (b.apply_unknown c name).2⟩
  | some q =>
    cases q with
    | signals =>
      obtain ⟨hresult, hstate⟩ := b.apply_signals c name
      exact .inl ⟨rfl, hresult.symm.trans rejected, hstate⟩
    | action k =>
      have entered := b.apply_action c name
      unfold Entered at entered
      split at entered
      · rw [entered.1] at rejected
        cases rejected
      · exact .inr ⟨by simp, entered.2⟩

/-- A rejected clause leaves the builder as it was, unless it is about signals; then it does so exactly where
the signals read before the fault are the ones that were there. Calls are dispatched as before in any case, and
signals are traced as before exactly where the builder is as it was. -/
theorem rejected_leaves_no_trace_iff {b : Builder} {c : Clause} {e : ClauseError}
    (rejected : (b.apply c).result = .error e) :
    ((b.apply c).state = b ↔ (Qualifier.ofName? c.name = some .signals → b.AlreadyReads c)) ∧
      (b.apply c).state = { b with signals := (b.apply c).state.signals } ∧
      (∀ (σ : Type) (h : Handler σ) (s : σ) (call : Call),
        ((b.apply c).state.finish.1.dispatch h s call).2 = (b.finish.1.dispatch h s call).2) ∧
      ((∀ n, (b.apply c).state.finish.1.tracesSignal n = b.finish.1.tracesSignal n) ↔
        (b.apply c).state = b) := by
  rcases state_of_rejected rejected with ⟨name, fault, hstate⟩ | ⟨name, hstate⟩
  · have same : (b.apply c).state = b ↔ b.AlreadyReads c := by
      rw [hstate, ← signalsAfter_eq_iff fault]
      exact ⟨fun h => congrArg Builder.signals h, fun h => by rw [h]⟩
    refine ⟨?_, ?_, ?_, ?_⟩
    · rw [same]
      exact ⟨fun h _ => h, fun h => h name⟩
    · rw [hstate]
    · intro σ h s call
      rw [hstate, finish_signals]
      rfl
    · refine ⟨?_, fun h n => by rw [h]⟩
      intro alike
      have members : ∀ n, (b.signalsAfter c.main).2.contains n = b.signals.contains n := by
        intro n
        have := alike n
        rw [hstate, finish_signals] at this
        exact this.trans (b.tracesSignal_finish n)
      obtain ⟨bits, inverted⟩ := NumberSet.contains_ext members
      obtain ⟨hbits, hinverted, _⟩ := signalsAfter_of_rejected fault
      rw [same]
      exact ⟨fun n => (bits n).symm.trans (hbits n), inverted.symm.trans hinverted⟩
  · rw [hstate]
    exact ⟨⟨fun _ h => absurd h name, fun _ => rfl⟩, rfl, fun _ _ _ _ => rfl, fun _ => rfl, fun _ _ => rfl⟩

theorem rejected_signal_after_none :
    let b : Builder := { Builder.new ⟨[⟨"bare", []⟩], List.cons_ne_nil _ _⟩ with signals := .empty }
    let c : Clause := ⟨"signal", "SIGNOPE", none⟩
    (b.apply c).result = .error (.badNumber .signal "SIGNOPE") ∧ (b.apply c).state = b := by
  intro b c
  have rejected : (b.apply c).result = .error (.badNumber .signal "SIGNOPE") := by decide +kernel
  have reads : b.AlreadyReads c := by
    have none : c.signalsRead = [] := by decide +kernel
    have marks : (Mode.clause.negations c.main).1 = 0 := by decide +kernel
    unfold AlreadyReads
    rw [none, marks]
    exact ⟨fun _ => Iff.rfl, rfl⟩
  exact ⟨rejected, (rejected_leaves_no_trace_iff rejected).1.mpr fun _ => reads⟩

/-- All signals are traced before any clause, and none after one that names an unknown signal. -/
theorem rejected_signal_forgets_all :
    let b := Builder.new ⟨[⟨"bare", []⟩], List.cons_ne_nil _ _⟩
    let done := b.qualify "signal=SIGNOPE"
    done.result = .error (.badNumber .signal "SIGNOPE") ∧ done.state ≠ b ∧
      b.finish.1.tracesSignal 9 = true ∧ done.state.finish.1.tracesSignal 9 = false := by
  decide +kernel

end Builder

end SyscallFilter
