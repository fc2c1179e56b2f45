import Mathlib.Data.List.Basic
import SyscallFilter.Proofs.ClauseText
import SyscallFilter.Proofs.Run

/-!
# Clauses without a name

A text without an equals sign is read as a clause about tracing, but its colons are not looked for: the whole text is
the list. With the name in front of it, the list ends at the first colon.
-/

namespace SyscallFilter

namespace Builder

/-! ## Clauses that do the same -/

variable {b : Builder}

theorem Entered.alike {rule : Except ClauseError Rule} {done done' : Attempt Builder Unit}
    (entered : b.Entered rule done) (entered' : b.Entered rule done') :
    done.result = done'.result ∧ done.state = done'.state := by
  cases rule with
  | ok r => exact ⟨entered.1.trans entered'.1.symm, entered.2.trans entered'.2.symm⟩
  | error e => exact ⟨entered.1.trans entered'.1.symm, entered.2.trans entered'.2.symm⟩

theorem onAction_inj {k : ActionKind} {f f' : Action → Action} (same : b.onAction k f = b.onAction k f') :
    ∃ a, f a = f' a := by
  have inside := b.lt_length_findOrAdd k
  have here := congrArg (fun b' => b'.actions[(b.findOrAdd k).1]?) same
  simp only [onAction, modifyAction, List.getElem?_modify_eq, List.getElem?_eq_getElem inside, Option.map_eq_map,
    Option.map_some, Option.some.injEq] at here
  exact ⟨_, here⟩

theorem enter_filter_inj {k : ActionKind} {f f' : Filter} (same : b.enter ⟨k, f, none⟩ = b.enter ⟨k, f', none⟩) :
    f = f' := by
  obtain ⟨a, grown⟩ := onAction_inj same
  have filters : a.filters ++ [f] = a.filters ++ [f'] := congrArg Action.filters grown
  simpa using filters

theorem apply_alike_iff {k : ActionKind} (plain : k.takesArgs = false) {c c' : Clause} (kind : c.kind? = some k)
    (kind' : c'.kind? = some k) :
    (b.apply c).result = (b.apply c').result ∧ (b.apply c).state = (b.apply c').state ↔
      (Filter.parse k.filterKind c.main b.personalities .clause).1 =
        (Filter.parse k.filterKind c'.main b.personalities .clause).1 := by
  have entered := b.apply_action c ((c.kind?_eq_some_iff k).mp kind)
  have entered' := b.apply_action c' ((c'.kind?_eq_some_iff k).mp kind')
  rw [Clause.rule_of_plain _ plain] at entered entered'
  constructor
  · rintro ⟨results, states⟩
    cases parsed : (Filter.parse k.filterKind c.main b.personalities .clause).1 <;>
      cases parsed' : (Filter.parse k.filterKind c'.main b.personalities .clause).1 <;>
      rw [parsed] at entered <;> rw [parsed'] at entered'
    · rw [entered.1, entered'.1] at results
      exact congrArg _ (Except.error.inj results)
    · rw [entered.1, entered'.1] at results
      cases results
    · rw [entered.1, entered'.1] at results
      cases results
    · rw [entered.2, entered'.2] at states
      rw [enter_filter_inj states]
  · intro same
    rw [same] at entered
    exact entered.alike entered'

/-! ## With and without the name -/

/-- Without a colon the name makes no difference. With one, the clause with the name is that for the part before the
colon, and the clause without the name does the same exactly if that part reads like the whole text. -/
theorem qualify_bare_iff (b : Builder) {text : String} (bare : '=' ∉ text.toList) :
    let plain := b.qualify text
    let named := b.qualify ("trace=" ++ text)
    (':' ∉ text.toList → plain = named) ∧
      ∀ main args : String, text.toList = main.toList ++ ':' :: args.toList → ':' ∉ main.toList →
        (named.result = (b.qualify main).result ∧ named.state = (b.qualify main).state) ∧
        (plain.result = named.result ∧ plain.state = named.state ↔
          (Filter.parse .syscall text b.personalities .clause).1 =
            (Filter.parse .syscall main b.personalities .clause).1) := by
  intro plain named
  have split : plain = b.apply ⟨"trace", text, none⟩ := congrArg b.apply (Clause.split_of_bare bare)
  have split' : named = b.apply (.split ("trace" ++ "=" ++ text)) := rfl
  rw [Clause.split_of_named (by decide)] at split'
  refine ⟨fun whole => ?_, fun main args cut first => ?_⟩
  · rw [(Text.cut_eq_none_iff ':' text).mpr whole] at split'
    exact split.trans split'.symm
  · rw [(Text.cut_eq_some_iff ':' text main args).mpr ⟨cut, first⟩] at split'
    have bareMain : '=' ∉ main.toList := fun mem => bare (by simp [cut, mem])
    have splitMain : b.qualify main = b.apply ⟨"trace", main, none⟩ := congrArg b.apply (Clause.split_of_bare bareMain)
    rw [split, split', splitMain]
    exact ⟨(apply_alike_iff (k := .trace) rfl rfl rfl).mpr rfl, apply_alike_iff (k := .trace) rfl rfl rfl⟩

theorem qualify_bare_tolerated :
    let p : Personalities := ⟨[⟨"demo", [⟨some "read", .empty⟩]⟩], List.cons_ne_nil _ _⟩
    let plain := (new p).qualify "read,?x:y"
    let named := (new p).qualify "trace=read,?x:y"
    '=' ∉ "read,?x:y".toList ∧ plain.result = named.result ∧ plain.state = named.state := by
  -- A clause of which the list reads the same up to the colon, as what follows may stand for nothing.
  intro p plain named
  have bare : '=' ∉ "read,?x:y".toList := by decide
  obtain ⟨-, colon⟩ := qualify_bare_iff (new p) bare
  obtain ⟨-, alike⟩ := colon "read,?x" "y" (by decide) (by decide)
  exact ⟨bare, alike.mpr (by decide +kernel)⟩

/-- With a colon the name in front makes a difference: what follows the colon is ignored, or is part of the list. -/
theorem qualify_bare_refused :
    let p : Personalities := ⟨[⟨"demo", [⟨some "read", .empty⟩]⟩], List.cons_ne_nil _ _⟩
    '=' ∉ "read:x".toList ∧ ((new p).qualify "read:x").result = .error (.unknownCall "read:x") ∧
      ((new p).qualify "trace=read:x").result = .ok () ∧
      ((new p).qualify "read:x").state ≠ ((new p).qualify "trace=read:x").state := by
  decide +kernel

end Builder

end SyscallFilter
