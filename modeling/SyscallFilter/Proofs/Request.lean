import SyscallFilter.Proofs.Run

/-!
# What requests demand

A request that is not refused demands an action of some kind, to follow a clause or only to be there. `Registry` is what
every run of requests leaves: which actions there are, how they are numbered, and what each of them holds. It is read
off what the run was granted.
-/

namespace SyscallFilter

/-- What a request that is not refused asks of a kind of action: to follow a clause, or only to be there. -/
structure Demand where
  kind : ActionKind
  clause : Option Clause

namespace Builder

/-- What an accepted clause about actions demands. -/
def clauseDemand? (b : Builder) (c : Clause) : Option Demand :=
  if (b.apply c).result = .ok () then c.kind?.map (⟨·, some c⟩) else none

def demand? (b : Builder) : Request → Option Demand
  | .qualify text => b.clauseDemand? (.split text)
  | .clause c => b.clauseDemand? c
  | .path _ => none
  | .action k => some ⟨k, none⟩
  | .actionNamed name => (ActionKind.ofName? name).map (⟨·, none⟩)

/-- The demands of a run, each request taken where it stands. -/
def demands : Builder → List Request → List Demand
  | _, [] => []
  | b, r :: rest => (b.demand? r).toList ++ (b.serve r).demands rest

end Builder

theorem Builder.clauseDemand?_eq_some_iff (b : Builder) (c : Clause) (d : Demand) :
    b.clauseDemand? c = some d ↔ (b.apply c).result = .ok () ∧ d.clause = some c ∧ c.kind? = some d.kind := by
  unfold clauseDemand?
  constructor
  · intro demand
    split at demand
    next accepted =>
      obtain ⟨k, kind, rfl⟩ := Option.map_eq_some_iff.mp demand
      exact ⟨accepted, rfl, kind⟩
    · cases demand
  · obtain ⟨k, clause⟩ := d
    rintro ⟨accepted, rfl, kind⟩
    rw [if_pos accepted, kind, Option.map_some]

/-- The demand is of the kind that its clause names. -/
def Demand.Named (d : Demand) : Prop := ∀ c, d.clause = some c → c.kind? = some d.kind

theorem Builder.named_of_mem_demands {b : Builder} {requests : List Request} {d : Demand}
    (mem : d ∈ b.demands requests) : d.Named := by
  have bare (k : ActionKind) : Demand.Named ⟨k, none⟩ := nofun
  have named {b : Builder} {c : Clause} (demand : b.clauseDemand? c = some d) : d.Named := by
    obtain ⟨-, clause, kind⟩ := (b.clauseDemand?_eq_some_iff c d).mp demand
    intro c' same
    rw [clause] at same
    cases same
    exact kind
  induction requests generalizing b with
  | nil => cases mem
  | cons r rest ih =>
    rcases List.mem_append.mp mem with here | later
    · rw [Option.mem_toList] at here
      cases r with
      | qualify text => exact named here
      | clause c => exact named here
      | path q => cases here
      | action k =>
        cases here
        exact bare k
      | actionNamed name =>
        obtain ⟨k, -, rfl⟩ := Option.map_eq_some_iff.mp here
        exact bare k
    · exact ih later

/-! ## What actions hold -/

/-- The filter is the one that the clause, read as one for `k`, describes on its own. -/
def Clause.Describes (p : Personalities) (k : ActionKind) (c : Clause) (f : Filter) : Prop :=
  (Filter.parse k.filterKind c.main p .clause).1 = .ok f

/-- The action is the one that was made for the demand. -/
structure Demand.Owns (p : Personalities) (d : Demand) (a : Action) : Prop where
  kind : a.kind = d.kind
  bare : d.clause = none → a.filters = [] ∧ a.data = none
  clause : ∀ c, d.clause = some c → ∃ f i, c.Describes p d.kind f ∧
    Injection.parse? c.args (d.kind = .fault) .clause = some i ∧ a.filters = [f] ∧ a.data = some i

/-- The clauses among some demands that are about a kind of action. -/
def clausesFor (demands : List Demand) (k : ActionKind) : List Clause :=
  (demands.filter (·.kind = k)).filterMap (·.clause)

/-- What there is after a run with these demands. -/
structure Registry (p : Personalities) (demands : List Demand) (b : Builder) : Prop where
  personalities : b.personalities = p
  /-- Actions are numbered by their places. -/
  numbered : b.actions.map (·.id) = List.range b.actions.length
  /-- There are actions of the kinds that were asked for, and of no other. -/
  present : ∀ k, k ∈ b.kinds ↔ ∃ d ∈ demands, d.kind = k
  alone : ∀ k, k.takesArgs = false → b.kinds.count k ≤ 1
  /-- An action without arguments has the filters of its clauses, in their order. -/
  shared : ∀ a ∈ b.actions, a.kind.takesArgs = false →
    a.data = none ∧ List.Forall₂ (Clause.Describes p a.kind) (clausesFor demands a.kind) a.filters
  /-- For each demand with arguments there is an action of its own, in the same order. -/
  own : List.Forall₂ (Demand.Owns p) (demands.filter (·.kind.takesArgs)) (b.actions.filter (·.kind.takesArgs))
  alternatives : ∀ a ∈ b.actions, a.Alternatives
  defaults : b.defaults = Decisions.default.diff (.ofList (b.kinds.map (·.decision)))

/-! ## From grants to demands -/

def Demand.grant? (p : Personalities) (d : Demand) : Option Grant :=
  match d.clause with
  | none => some (.bare d.kind)
  | some c => (c.rule d.kind p).toOption.map .rule

/-- The demands of a run were met by these grants, one by one. -/
def Met (p : Personalities) (demands : List Demand) (grants : List Grant) : Prop :=
  List.Forall₂ (fun d g => d.grant? p = some g) demands grants

theorem Demand.grant?_of_rule {p : Personalities} {d : Demand} {c : Clause} {r : Rule} (clause : d.clause = some c)
    (rule : c.rule d.kind p = .ok r) : d.grant? p = some (.rule r) := by
  unfold grant?
  rw [clause]
  simp only [rule]
  rfl

theorem Demand.grant?_cases {p : Personalities} {d : Demand} {g : Grant} (given : d.grant? p = some g) :
    d.clause = none ∧ g = .bare d.kind ∨ ∃ c r, d.clause = some c ∧ c.rule d.kind p = .ok r ∧ g = .rule r := by
  unfold grant? at given
  cases clause : d.clause with
  | none =>
    rw [clause] at given
    exact .inl ⟨rfl, (Option.some.inj given).symm⟩
  | some c =>
    rw [clause] at given
    cases rule : c.rule d.kind p with
    | error e =>
      simp only [rule] at given
      cases given
    | ok r =>
      simp only [rule] at given
      exact .inr ⟨c, r, rfl, rule, (Option.some.inj given).symm⟩

namespace Builder

theorem demand_cases (b : Builder) (r : Request) :
    b.demand? r = none ∧ r.grant? b.personalities = none ∨
      ∃ d g, b.demand? r = some d ∧ r.grant? b.personalities = some g ∧ d.grant? b.personalities = some g := by
  have clause (c : Clause) : b.clauseDemand? c = none ∧ (c.rule? b.personalities).map Grant.rule = none ∨
      ∃ d g, b.clauseDemand? c = some d ∧ (c.rule? b.personalities).map Grant.rule = some g ∧
        d.grant? b.personalities = some g := by
    unfold clauseDemand? Clause.rule?
    cases kind : c.kind? with
    | none => exact .inl ⟨by simp, rfl⟩
    | some k =>
      have entered := b.apply_action c ((c.kind?_eq_some_iff k).mp kind)
      rw [Option.bind_some]
      cases rule : c.rule k b.personalities with
      | error e =>
        rw [rule] at entered
        exact .inl ⟨by rw [entered.1]; rfl, rfl⟩
      | ok r =>
        rw [rule] at entered
        exact .inr ⟨⟨k, some c⟩, .rule r, by rw [entered.1]; rfl, rfl, Demand.grant?_of_rule rfl rule⟩
  cases r with
  | qualify text => exact clause (.split text)
  | clause c => exact clause c
  | path q => exact .inl ⟨rfl, rfl⟩
  | action k => exact .inr ⟨⟨k, none⟩, .bare k, rfl, rfl, rfl⟩
  | actionNamed name =>
    simp only [demand?, Request.grant?]
    cases ActionKind.ofName? name with
    | none => exact .inl ⟨rfl, rfl⟩
    | some k => exact .inr ⟨⟨k, none⟩, .bare k, rfl, rfl, rfl⟩

theorem met_demands (b : Builder) (requests : List Request) :
    Met b.personalities (b.demands requests) (requests.filterMap (·.grant? b.personalities)) := by
  induction requests generalizing b with
  | nil => exact .nil
  | cons r rest ih =>
    have later := ih (b.serve r)
    rw [serve_personalities] at later
    obtain ⟨demand, given⟩ | ⟨d, g, demand, given, met⟩ := b.demand_cases r <;>
      rw [demands, demand, List.filterMap_cons, given]
    · exact later
    · exact .cons met later

end Builder

/-! ## What meets a demand -/

theorem Clause.data_of_rule {c : Clause} {k : ActionKind} {p : Personalities} {r : Rule} (rule : c.rule k p = .ok r) :
    (k.takesArgs = false → r.data = none) ∧
      (k.takesArgs = true → ∃ i, Injection.parse? c.args (k = .fault) .clause = some i ∧ r.data = some i) := by
  unfold Clause.rule at rule
  split at rule
  · cases rule
  split at rule
  next args =>
    split at rule
    · cases rule
    next i parsed =>
      cases rule
      exact ⟨fun plain => (Bool.false_ne_true (plain.symm.trans args)).elim, fun _ => ⟨i, parsed, rfl⟩⟩
  next plain =>
    cases rule
    exact ⟨fun _ => rfl, fun args => absurd args plain⟩

namespace Demand

variable {p : Personalities} {d : Demand} {g : Grant}

theorem kind_of_grant? (given : d.grant? p = some g) : g.kind = d.kind := by
  obtain ⟨-, rfl⟩ | ⟨c, r, -, rule, rfl⟩ := grant?_cases given
  · rfl
  · exact (Clause.of_rule rule).1

theorem data_of_grant? (given : d.grant? p = some g) (plain : d.kind.takesArgs = false) : g.data = none := by
  obtain ⟨-, rfl⟩ | ⟨c, r, -, rule, rfl⟩ := grant?_cases given
  · rfl
  · exact (Clause.data_of_rule rule).1 plain

theorem describes_of_grant? (given : d.grant? p = some g) :
    List.Forall₂ (Clause.Describes p d.kind) d.clause.toList g.filters := by
  obtain ⟨bare, rfl⟩ | ⟨c, r, clause, rule, rfl⟩ := grant?_cases given
  · rw [bare]
    exact .nil
  · rw [clause]
    exact .cons (Clause.of_rule rule).2 .nil

theorem owns_of_grant? (given : d.grant? p = some g) (args : d.kind.takesArgs = true) (id : Nat) :
    d.Owns p (Grant.make id g.kind [g]) := by
  obtain ⟨bare, rfl⟩ | ⟨c, r, clause, rule, rfl⟩ := grant?_cases given
  · refine ⟨rfl, fun _ => ⟨rfl, rfl⟩, fun c clause => ?_⟩
    rw [bare] at clause
    cases clause
  · obtain ⟨i, parsed, kept⟩ := (Clause.data_of_rule rule).2 args
    refine ⟨kind_of_grant? given, fun bare => ?_, fun c' same => ?_⟩
    · rw [bare] at clause
      cases clause
    · rw [clause] at same
      cases same
      refine ⟨r.filter, i, (Clause.of_rule rule).2, parsed, rfl, ?_⟩
      show r.data.or none = some i
      rw [kept, Option.some_or]

end Demand

section Met

variable {p : Personalities} {demands : List Demand} {grants : List Grant} (met : Met p demands grants)

include met

theorem Met.filter (q : ActionKind → Bool) : Met p (demands.filter (q ·.kind)) (grants.filter (q ·.kind)) := by
  induction met with
  | nil => exact .nil
  | @cons d g _ _ given _ ih =>
    rw [List.filter_cons, List.filter_cons, Demand.kind_of_grant? given]
    split
    · exact .cons given ih
    · exact ih

theorem Met.exists_kind_iff (k : ActionKind) : (∃ g ∈ grants, g.kind = k) ↔ ∃ d ∈ demands, d.kind = k := by
  induction met with
  | nil => simp
  | cons given _ ih => rw [List.exists_mem_cons_iff, List.exists_mem_cons_iff, Demand.kind_of_grant? given, ih]

theorem Met.describes (k : ActionKind) :
    List.Forall₂ (Clause.Describes p k) (clausesFor demands k)
      ((grants.filter (·.kind = k)).flatMap Grant.filters) := by
  unfold clausesFor
  induction met with
  | nil => exact .nil
  | @cons d g _ _ given _ ih =>
    rw [List.filter_cons, List.filter_cons, Demand.kind_of_grant? given]
    by_cases own : d.kind = k
    · have first := Demand.describes_of_grant? given
      rw [own] at first
      rw [if_pos (decide_eq_true own), if_pos (decide_eq_true own), List.flatMap_cons, List.filterMap_cons]
      cases clause : d.clause <;> rw [clause] at first <;> exact List.rel_append first ih
    · rw [if_neg (mt of_decide_eq_true own), if_neg (mt of_decide_eq_true own)]
      exact ih

theorem Met.owns (args : ∀ d ∈ demands, d.kind.takesArgs = true) {as : List Action}
    (own : List.Forall₂ (fun g a => a = Grant.make a.id g.kind [g]) grants as) :
    List.Forall₂ (Demand.Owns p) demands as := by
  induction met generalizing as with
  | nil =>
    cases own
    exact .nil
  | cons given _ ih =>
    cases own with
    | cons made later =>
      rw [List.forall_mem_cons] at args
      exact .cons (made ▸ Demand.owns_of_grant? given args.1 _) (ih args.2 later)

end Met

/-- What was granted for the demands of a run is the registry of these demands. -/
theorem Granted.registry {p : Personalities} {grants : List Grant} {demands : List Demand} {b : Builder}
    (granted : Granted p grants b) (met : Met p demands grants) : Registry p demands b where
  personalities := granted.personalities
  numbered := granted.numbered
  present k := (granted.present k).trans (met.exists_kind_iff k)
  alone := granted.alone
  shared a known args := by
    have made := granted.shared a known args
    constructor
    · rw [made]
      refine Grant.make_data _ _ fun g mem => ?_
      obtain ⟨given, kind⟩ := List.mem_filter.mp mem
      obtain ⟨d, -, meets⟩ := (exists_of_forall₂ met).2 g given
      refine Demand.data_of_grant? meets ?_
      rw [← Demand.kind_of_grant? meets, of_decide_eq_true kind, args]
    · have described := met.describes a.kind
      rwa [← (Grant.make_spec a.id a.kind _).2.2.2, ← made] at described
  own := (met.filter ActionKind.takesArgs).owns (fun _ mem => (List.mem_filter.mp mem).2) granted.own
  alternatives := granted.alternatives
  defaults := granted.defaults

theorem registry_serveAll (p : Personalities) (requests : List Request) :
    Registry p ((Builder.new p).demands requests) ((Builder.new p).serveAll requests) := by
  obtain ⟨granted, -⟩ := (granted_new p).serveAll requests
  rw [List.nil_append] at granted
  exact granted.registry ((Builder.new p).met_demands requests)

end SyscallFilter
