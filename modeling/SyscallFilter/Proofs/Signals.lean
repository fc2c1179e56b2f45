import SyscallFilter.Proofs.Name
import SyscallFilter.Proofs.NumberSpec
import SyscallFilter.Proofs.Run

/-!
# Traced signals

Only clauses about signals change which signals are traced, and each of them starts afresh. So the last one decides
alone, whatever was there before it.
-/

namespace SyscallFilter

/-- The clause is about signals. -/
def Clause.OnSignals (c : Clause) : Prop := Qualifier.ofName? c.name = some .signals

instance (c : Clause) : Decidable c.OnSignals := inferInstanceAs (Decidable (_ = _))

/-! ## Sets that start empty -/

theorem NumberSet.contains_addAll_turned {s : NumberSet} (bare : s.bits = []) (plain : s.inverted = false) (k : Nat)
    (ns : List Nat) (n : Nat) : ((s.turned k).addAll ns).contains n = true ↔ Xor (k % 2 = 1) (n ∈ ns) := by
  have turned : (s.turned k).bits = [] := bare
  have inverted : (s.turned k).inverted = decide (k % 2 = 1) := by simp [NumberSet.turned, plain]
  rw [contains_eq_true_iff, mem_bits_addAll, inverted_addAll, turned, inverted]
  simp

namespace NumberSpec

open CallSpec

theorem mem_numbersOf_signal_iff {list : String} (n : Nat) :
    n ∈ numbersOf Signal.parse? list ↔
      ∃ token ∈ tokens list, Numeral.Spells token n ∧ n ≤ 255 ∨ Signal.Named token n := by
  have noSignal : ∀ word ∈ ["none", "all"], ∀ token ∈ tokens word, Signal.parse? token = none := by decide +kernel
  rw [mem_numbersOf_iff]
  simp only [← Signal.parse?_eq_some_iff]
  constructor
  · rintro ⟨-, -, named⟩
    exact named
  · rintro ⟨token, mem, read⟩
    refine ⟨?_, ?_, token, mem, read⟩
    · rintro rfl
      simp [noSignal "none" (by simp) token mem] at read
    · rintro rfl
      simp [noSignal "all" (by simp) token mem] at read

theorem contains_addTo_signal {spec : String} {mode : Mode} {s : NumberSet} (bare : s.bits = [])
    (plain : s.inverted = false) (accepted : Accepted Signal.parse? mode spec) (n : Nat) :
    (addTo spec .signal Signal.parse? mode s).2.contains n = true ↔
      Xor (rounds mode spec % 2 = 1)
        (∃ token ∈ tokens (unmarked mode spec), Numeral.Spells token n ∧ n ≤ 255 ∨ Signal.Named token n) := by
  rw [addTo_of_accepted accepted, NumberSet.contains_addAll_turned bare plain, mem_numbersOf_signal_iff]

end NumberSpec

namespace Builder

/-! ## Steps that leave signals alone -/

theorem signals_apply_of_other (b : Builder) {c : Clause} (other : ¬ c.OnSignals) :
    (b.apply c).state.signals = b.signals := by
  cases name : Qualifier.ofName? c.name with
  | none => rw [(b.apply_unknown c name).2]
  | some q =>
    cases q with
    | signals => exact absurd name other
    | action k =>
      have entered := b.apply_action c name
      cases rule : c.rule k b.personalities with
      | ok r =>
        rw [rule] at entered
        rw [entered.2, b.enter_signals r]
      | error e =>
        rw [rule] at entered
        rw [entered.2]

theorem signals_takeAll_of_other (b : Builder) {steps : List Step} (others : ∀ c, .clause c ∈ steps → ¬ c.OnSignals) :
    (b.takeAll steps).signals = b.signals := by
  induction steps generalizing b with
  | nil => rfl
  | cons step rest ih =>
    have later := ih (b.take step) fun c mem => others c (List.mem_cons_of_mem step mem)
    apply later.trans
    cases step with
    | clause c => exact b.signals_apply_of_other (others c List.mem_cons_self)
    | path q => rfl

/-! ## A clause about signals -/

open CallSpec NumberSpec

/-- Without a clause about signals all are traced. Otherwise the last of these clauses decides, if it is accepted: its
list selects the signals that are traced, as it would from none. What came before it has no part in that, nor have the
other clauses and the paths. -/
theorem tracesSignal_of_last (p : Personalities) :
    (∀ steps, (∀ c, .clause c ∈ steps → ¬ c.OnSignals) →
      ∀ n, ((new p).takeAll steps).finish.1.tracesSignal n = true) ∧
    ∀ before c after, c.OnSignals → (((new p).takeAll before).apply c).result = .ok () →
      (∀ c', .clause c' ∈ after → ¬ c'.OnSignals) → ∀ n,
        let e := ((new p).takeAll (before ++ .clause c :: after)).finish.1
        let fresh := NumberSpec.addTo c.main .signal Signal.parse? .clause .empty
        fresh.1 = .ok () ∧ e.tracesSignal n = fresh.2.contains n ∧
          (e.tracesSignal n = true ↔
            Xor (rounds .clause c.main % 2 = 1)
              (∃ token ∈ tokens (unmarked .clause c.main),
                Numeral.Spells token n ∧ n ≤ 255 ∨ Signal.Named token n)) := by
  constructor
  · intro steps others n
    rw [tracesSignal_finish, signals_takeAll_of_other _ others]
    rfl
  · intro before c after own accepted others n e fresh
    have left : e.tracesSignal n = (((new p).takeAll before).apply c).state.signals.contains n := by
      have run : (new p).takeAll (before ++ .clause c :: after) =
          ((((new p).takeAll before).apply c).state).takeAll after := takeAll_append _ _ _
      simp only [e]
      rw [tracesSignal_finish, run, signals_takeAll_of_other _ others]
    obtain ⟨result, state⟩ := ((new p).takeAll before).apply_signals c own
    have listed := (addTo_ok_iff .signal _).mp (result.symm.trans accepted)
    have selects : (((new p).takeAll before).signalsAfter c.main).2.contains n = true ↔ _ :=
      contains_addTo_signal rfl rfl listed n
    have selectsFresh : fresh.2.contains n = true ↔ _ := contains_addTo_signal rfl rfl listed n
    rw [left, state]
    refine ⟨(addTo_ok_iff .signal .empty).mpr listed, ?_, selects⟩
    rw [Bool.eq_iff_iff, selectsFresh]
    exact selects

theorem tracesSignal_of_last_mixed :
    let p : Personalities := ⟨[⟨"demo", [⟨some "open", .empty⟩]⟩], List.cons_ne_nil _ _⟩
    let before : List Step :=
      [.clause (.split "signal=!15"), .clause (.split "s=200,nope"), .clause (.split "trace=open")]
    let c : Clause := .split "signals=!!!int,SIGKILL,015"
    let after : List Step := [.path "/tmp", .clause (.split "fault=nope")]
    let e := ((new p).takeAll (before ++ .clause c :: after)).finish.1
    c.OnSignals ∧ (((new p).takeAll before).apply c).result = .ok () ∧
      (∀ c', .clause c' ∈ after → ¬ c'.OnSignals) ∧
      e.tracesSignal 2 = false ∧ e.tracesSignal 200 = true ∧
      ((new p).takeAll after).finish.1.tracesSignal 200 = true := by
  -- A refused list and an accepted one come before the last, which names signals in three ways.
  intro p before c after e
  obtain ⟨untouched, last⟩ := tracesSignal_of_last p
  have own : c.OnSignals := by decide
  have accepted : (((new p).takeAll before).apply c).result = .ok () := by decide +kernel
  have others : ∀ c', .clause c' ∈ after → ¬ c'.OnSignals := by
    intro c' mem
    simp only [after, List.mem_cons, reduceCtorEq, Step.clause.injEq, List.not_mem_nil, or_false, false_or] at mem
    subst mem
    decide
  have decided := last before c after own accepted others
  refine ⟨own, accepted, others, ?_, ?_, untouched after others 200⟩
  · exact (decided 2).2.1.trans (by decide +kernel)
  · exact (decided 200).2.1.trans (by decide +kernel)

end Builder

end SyscallFilter
