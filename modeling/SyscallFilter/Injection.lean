import SyscallFilter.Spec

/-! # What is injected into a call, and when -/

namespace SyscallFilter

/-- The result that a call is made to have. -/
inductive Forced where
  | unset
  | error (errno : Nat)
  | retval (value : Nat)
  deriving DecidableEq, Repr

/-- The value that the call returns; an error is negative. -/
def Forced.rawValue? : Forced → Option Int
  | unset => none
  | error errno => some (-errno)
  | retval value => some value

structure Injection where
  /-- The first occurrence that is injected into. -/
  first : Nat
  /-- The distance between occurrences; zero for the first one only. -/
  step : Nat
  result : Forced
  /-- The signal that is sent, or zero. -/
  signal : Nat
  deriving DecidableEq, Repr

namespace Injection

/-- Nothing, at every occurrence. -/
def default : Injection := ⟨1, 1, .unset, 0⟩

def firesOn (i : Injection) (occurrence : Nat) : Bool :=
  if occurrence < i.first then false
  else if occurrence = i.first then true
  else i.step != 0 && (occurrence - i.first) % i.step == 0

/-! ## Arguments -/

def maxOccurrence : Nat := 65535

/-- A number of occurrences, from one up. -/
def occurrence? (s : String) : Option Nat := (Numeral.upTo maxOccurrence s).filter (1 ≤ ·)

/-- First and step: `F` is once, `F+` is from then on, and `F+S` is every `S`th from then on. -/
def schedule? (value : String) : Option (Nat × Nat) :=
  match Text.cut '+' value with
  | none => (occurrence? value).map (·, 0)
  | some (first, step) => do
    let first ← occurrence? first
    let step ← if step = "" then some 1 else occurrence? step
    return (first, step)

/-- The result, if there is none yet. -/
def force? (i : Injection) (result : Forced) : Option Injection :=
  if i.result = .unset then some { i with result } else none

/-- Reads one argument. A fault only knows `when` and `error`. -/
def withArgument? (i : Injection) (token : String) (fault : Bool) : Option Injection :=
  match Text.cut '=' token with
  | none => none
  | some (key, value) =>
    match key, fault with
    | "when", _ => (schedule? value).map fun (first, step) => { i with first, step }
    | "error", _ => (Errno.parse? value).bind fun errno => i.force? (.error errno)
    | "retval", false => (Numeral.number? value).bind fun n => i.force? (.retval n)
    | "signal", false =>
      ((Signal.parse? value).filter fun n => 1 ≤ n && n ≤ Signal.maxSignal).map fun signal =>
        { i with signal }
    | _, _ => none

/-- What separates arguments. -/
def delimiter : Mode → Char
  | .clause => ':'
  | .plain => ';'

/-- The injection that some arguments describe. They have to ask for something, but for a fault, which is
the error of a missing call if no other is asked for. -/
def parse? (args : Option String) (fault : Bool) (mode : Mode) : Option Injection := do
  let tokens := (args.map (Text.tokens (delimiter mode))).getD []
  let i ← tokens.foldlM (fun i token => i.withArgument? token fault) default
  if i.result = .unset ∧ i.signal = 0 then
    if fault then some { i with result := .error Errno.enosys } else none
  else some i

end Injection

end SyscallFilter
