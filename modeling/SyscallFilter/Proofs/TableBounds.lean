import SyscallFilter.Proofs.CheckedRun
import SyscallFilter.Proofs.Repetition

/-!
# Numbers outside a table

No list of calls puts a number into a set that the table of the set does not have. All the numbers outside a table
are therefore alike: whether a set has them is its polarity, no matter whether the number is less than the capacity of
the set, beyond it, or even beyond 32 bits.
-/

namespace SyscallFilter

/-! ## Sets -/

/-- The bits are for numbers of the table only. -/
def NumberSet.Inside (s : NumberSet) (t : Table) : Prop := ∀ n ∈ s.bits, n < t.size

section Sets

variable {s : NumberSet} {t : Table} {n : Nat}

theorem NumberSet.Inside.addAll (inside : s.Inside t) (sel : Selector) : (s.addAll (sel.numbers t)).Inside t := by
  intro n mem
  rcases (s.mem_bits_addAll _ n).mp mem with found | old
  · exact Checked.lt_size_of_mem_numbers found
  · exact inside n old

theorem NumberSet.Inside.contains_eq (inside : s.Inside t) (outside : t.size ≤ n) : s.contains n = s.inverted := by
  have absent : n ∉ s.bits := fun mem => by
    have := inside n mem
    omega
  simp [contains, absent]

theorem Checked.holdsNumber_of_outside (inside : s.Inside t) (outside : t.size ≤ n) :
    holdsNumber s n = .ok s.inverted := by
  unfold holdsNumber
  split
  next small => rw [Checked.contains_eq, toNat_toUInt32 small, inside.contains_eq outside]
  next => rfl

end Sets

namespace CallSpec

variable {tables : List Table} {sets : List NumberSet}

theorem inside_map {s : NumberSet} (clear : s.bits = []) :
    List.Forall₂ NumberSet.Inside (tables.map fun _ => s) tables := by
  refine List.forall₂_map_left_iff.mpr (List.forall₂_same.mpr fun t _ n mem => ?_)
  rw [clear] at mem
  cases mem

theorem inside_resolve (inside : List.Forall₂ NumberSet.Inside sets tables) (sel : Selector) :
    List.Forall₂ NumberSet.Inside (sel.resolve tables sets).2 tables := by
  unfold Selector.resolve
  induction inside with
  | nil => exact .nil
  | cons first _ ih => exact .cons (first.addAll sel) ih

theorem inside_addTo (inside : List.Forall₂ NumberSet.Inside sets tables) (spec : String) (mode : Mode) :
    List.Forall₂ NumberSet.Inside (addTo spec mode tables sets).state tables :=
  addTo_induction (P := fun sets => List.Forall₂ NumberSet.Inside sets tables)
    (fun _ _ inside => List.forall₂_map_left_iff.mpr inside) (fun sel _ inside => inside_resolve inside sel) spec mode
    inside

theorem inside_of_getElem? (inside : List.Forall₂ NumberSet.Inside sets tables) {i : Nat} {s : NumberSet} {t : Table}
    (set : sets[i]? = some s) (table : tables[i]? = some t) : s.Inside t := by
  obtain ⟨inSets, rfl⟩ := List.getElem?_eq_some_iff.mp set
  obtain ⟨inTables, rfl⟩ := List.getElem?_eq_some_iff.mp table
  exact inside.get inSets inTables

end CallSpec

/-! ## Filters -/

/-- Sets of calls stay inside the tables. -/
def Filter.Inside (p : Personalities) : Filter → Prop
  | .syscall sets => List.Forall₂ NumberSet.Inside sets p.tables
  | _ => True

namespace Filter

variable {p : Personalities}

theorem inside_parse {kind : FilterKind} {spec : String} {mode : Mode} {f : Filter}
    (parsed : (parse kind spec p mode).1 = .ok f) : f.Inside p := by
  cases kind with
  | syscall =>
    obtain ⟨_, rfl⟩ := exists_of_map_eq_ok parsed
    exact CallSpec.inside_addTo (CallSpec.inside_map rfl) spec mode
  | fd =>
    obtain ⟨_, rfl⟩ := exists_of_map_eq_ok parsed
    trivial
  | path =>
    cases parsed
    trivial

theorem holds_of_outside {f : Filter} (inside : f.Inside p) {c : Call} {t : Table}
    (table : p.get? c.personality = some t) {n n' : Nat} (outside : t.size ≤ n) (outside' : t.size ≤ n') :
    f.holds { c with number := n' } p = f.holds { c with number := n } p := by
  cases f with
  | syscall sets =>
    simp only [holds]
    cases set : sets[c.personality]? with
    | none => rfl
    | some s =>
      have own := CallSpec.inside_of_getElem? inside set table
      simp [own.contains_eq outside, own.contains_eq outside']
  | fd set =>
    have unallocated {k : Nat} (beyond : t.size ≤ k) : t.get? k = none := List.getElem?_eq_none beyond
    simp [holds, table, unallocated outside, unallocated outside']
  | path paths => rfl

end Filter

theorem Action.applies_of_outside {p : Personalities} {a : Action} (inside : ∀ f ∈ a.filters, f.Inside p) {c : Call}
    {t : Table} (table : p.get? c.personality = some t) {n n' : Nat} (outside : t.size ≤ n) (outside' : t.size ≤ n') :
    a.applies { c with number := n' } p = a.applies { c with number := n } p :=
  applies_congr fun f mem => Filter.holds_of_outside (inside f mem) table outside outside'

theorem Builder.inside_finish (p : Personalities) (steps : List Step) :
    ∀ a ∈ ((Builder.new p).takeAll steps).finish.1.actions, ∀ f ∈ a.filters, f.Inside p := by
  intro a mem f filter
  rw [mem_finish_actions] at mem
  obtain ⟨r, rule, rfl⟩ | rfl | rfl := mem_filters_limited (registered_takeAll p steps).1 mem filter
  · obtain ⟨c, -, -, read⟩ := mem_rulesOf_iff.mp rule
    exact Filter.inside_parse (Clause.of_rule read).2
  · exact CallSpec.inside_map rfl
  · trivial

/-! ## Runs -/

namespace Engine

variable {σ τ : Type} {h : Handler σ} {h' : Handler τ} {p : Personalities}

theorem applying_congr {as : List Action} {c c' : Call} (decisions : c'.decisions = c.decisions)
    (alike : ∀ a ∈ as, a.applies c' p = a.applies c p) : applying p as c' = applying p as c := by
  induction as generalizing c c' with
  | nil => rfl
  | cons a rest ih =>
    obtain ⟨first, later⟩ := List.forall_mem_cons.mp alike
    have settled : (c'.settle p a).decisions = (c.settle p a).decisions := by
      unfold Call.settle Call.decided
      rw [a.kind.considers_congr decisions, first]
      split <;> simp [decisions]
    have next := ih settled fun a' mem => by rw [Call.applies_settle, Call.applies_settle, later a' mem]
    rw [applying, applying, a.kind.considers_congr decisions, first, next]

/-- No list of calls puts a number into a set that the table does not have. So two calls whose numbers are both outside
the table are decided alike: the same actions apply, in the same order and with the same injections, and the same
decisions are left. -/
theorem dispatch_of_outside (p : Personalities) (steps : List Step) {c : Call} {t : Table}
    (table : p.get? c.personality = some t) {n n' : Nat} (outside : t.size ≤ n) (outside' : t.size ≤ n')
    (history history' : List Turn) (passive : h.Passive) (passive' : h'.Passive) (s : σ) (s' : τ) :
    let b := (Builder.new p).takeAll steps
    let e := b.finish.1
    let run := ((e.after history).dispatch (recording h) ([], s) { c with number := n }).2
    let run' := ((e.after history').dispatch (recording h') ([], s') { c with number := n' }).2
    (∀ mode spec, List.Forall₂ NumberSet.Inside
      (CallSpec.addTo spec mode p.tables (p.tables.map fun _ => .empty)).state p.tables) ∧
    (∀ a ∈ e.actions, ∀ sets, .syscall sets ∈ a.filters → List.Forall₂ NumberSet.Inside sets p.tables ∧
      ∀ set, sets[c.personality]? = some set → ∀ k, t.size ≤ k → Checked.holdsNumber set k = .ok set.inverted) ∧
    e.applied { c with number := n' } = e.applied { c with number := n } ∧
    run'.state.1.map Invocation.report = run.state.1.map Invocation.report ∧
    run'.call.decisions = run.call.decisions := by
  intro b e run run'
  have inside : ∀ a ∈ e.actions, ∀ f ∈ a.filters, f.Inside p := Builder.inside_finish p steps
  have personalities : b.personalities = p := Builder.takeAll_personalities (.new p) steps
  have applies : ∀ a ∈ e.actions,
      a.applies (e.enter { c with number := n' }) p = a.applies (e.enter { c with number := n }) p := by
    intro a mem
    rw [Call.applies_enter, Call.applies_enter, Action.applies_of_outside (inside a mem) table outside outside']
  have alike : List.Forall₂ (Action.Matches b.personalities (e.enter { c with number := n })
      (e.enter { c with number := n' })) e.actions e.actions :=
    List.forall₂_same.mpr fun a mem => ⟨rfl, rfl, personalities ▸ applies a mem⟩
  have entered : (e.enter { c with number := n' }).decisions = (e.enter { c with number := n }).decisions := rfl
  have matched := dispatch_of_matches (rfl : b.personalities = b.personalities) entered alike history history' passive
    passive' s s'
  refine ⟨fun mode spec => CallSpec.inside_addTo (CallSpec.inside_map rfl) spec mode, fun a mem sets filter => ?_, ?_,
    matched⟩
  · have own : List.Forall₂ NumberSet.Inside sets p.tables := inside a mem _ filter
    refine ⟨own, fun set known k beyond => ?_⟩
    exact Checked.holdsNumber_of_outside (CallSpec.inside_of_getElem? own known table) beyond
  · unfold applied
    rw [b.finish_personalities, personalities]
    exact applying_congr entered applies

theorem dispatch_of_outside_inverted :
    let p : Personalities := ⟨[⟨"demo", [⟨some "read", .ofList [.desc]⟩, ⟨some "open", .empty⟩]⟩], List.cons_ne_nil _ _⟩
    let b := (Builder.new p).takeAll [.clause (.split "trace=!read"), .clause (.split "write=!3"), .path "/tmp"]
    let c : Call := .new 0 2
    let c' : Call := .new 0 (2 ^ 64 - 1)
    let run := ((b.finish.1.after []).dispatch (recording .none) ([], ()) c).2
    let run' := ((b.finish.1.after []).dispatch (recording .none) ([], ()) c').2
    p.get? 0 = some ⟨"demo", [⟨some "read", .ofList [.desc]⟩, ⟨some "open", .empty⟩]⟩ ∧ Handler.none.Passive ∧
      run'.state.1.map Invocation.report = run.state.1.map Invocation.report ∧
      run'.call.decisions = run.call.decisions := by
  intro p b c c' run run'
  have passive : Handler.none.Passive := fun _ _ _ _ => rfl
  have table : p.get? (Call.new 0 0).personality =
      some ⟨"demo", [⟨some "read", .ofList [.desc]⟩, ⟨some "open", .empty⟩]⟩ := rfl
  have first : 2 ≤ 2 := by decide
  have last : 2 ≤ 2 ^ 64 - 1 := by decide
  obtain ⟨-, -, -, same⟩ := dispatch_of_outside p _ table first last [] [] passive passive () ()
  exact ⟨table, passive, same⟩

end Engine

end SyscallFilter
