import Mathlib.Data.List.Forall2
import Mathlib.Data.List.Induction
import SyscallFilter.Proofs.Action
import SyscallFilter.Proofs.Clause
import SyscallFilter.Proofs.Flags

/-!
# The actions that a builder holds

An action comes to a builder by grants: its kind is asked for, alone or with the filter of a rule. `Granted` is what
every grant preserves: which actions there are, how they are numbered, and what made each of them. `Registered` is the
same where all grants are rules.
-/

namespace SyscallFilter

/-! ## Related lists -/

section Related

variable {α β : Type} {R : α → β → Prop} {as : List α} {bs : List β}

theorem exists_of_forall₂ (related : List.Forall₂ R as bs) :
    (∀ a ∈ as, ∃ b ∈ bs, R a b) ∧ ∀ b ∈ bs, ∃ a ∈ as, R a b := by
  induction related with
  | nil => exact ⟨nofun, nofun⟩
  | cons first _ ih =>
    simp only [List.forall_mem_cons, List.exists_mem_cons_iff]
    exact ⟨⟨.inl first, fun a mem => .inr (ih.1 a mem)⟩, .inl first, fun b mem => .inr (ih.2 b mem)⟩

theorem forall₂_mem (related : List.Forall₂ R as bs) :
    List.Forall₂ (fun a b => a ∈ as ∧ b ∈ bs ∧ R a b) as bs := by
  have right : List.Forall₂ (fun b a => b ∈ bs ∧ R a b) bs as :=
    (List.forall₂_and_left bs as).mpr ⟨fun _ mem => mem, related.flip⟩
  exact (List.forall₂_and_left as bs).mpr ⟨fun _ mem => mem, right.flip⟩

theorem filterMap_eq_of_forall₂ {γ : Type} {f : α → Option γ} {g : β → Option γ} (related : List.Forall₂ R as bs)
    (same : ∀ a b, R a b → f a = g b) : as.filterMap f = bs.filterMap g := by
  induction related with
  | nil => rfl
  | @cons a b _ _ first _ ih => rw [List.filterMap_cons, List.filterMap_cons, same a b first, ih]

end Related

/-! ## Rules -/

/-- What a rule does to the action of its kind. -/
def Rule.followedBy (r : Rule) (a : Action) : Action := { a.addAlternative r.filter with data := r.data.or a.data }

theorem Rule.applies_followedBy (r : Rule) {a : Action} (alts : a.Alternatives) (c : Call) (p : Personalities) :
    (r.followedBy a).applies c p = (a.applies c p || r.filter.holds c p) :=
  Action.applies_addAlternative alts r.filter c p

namespace Builder

/-! ## The action of a kind -/

/-- Changes the action of a kind, which is new if the kind takes arguments or there is none yet. -/
def onAction (b : Builder) (k : ActionKind) (f : Action → Action) : Builder :=
  (b.findOrAdd k).2.1.modifyAction (b.findOrAdd k).1 f

theorem length_addAction (b : Builder) (k : ActionKind) :
    (b.addAction k).1.actions.length = b.actions.length + 1 := List.length_append

theorem lt_length_findOrAdd (b : Builder) (k : ActionKind) :
    (b.findOrAdd k).1 < (b.findOrAdd k).2.1.actions.length := by
  unfold findOrAdd
  dsimp only
  split
  next place found =>
    split at found
    · cases found
    · exact (List.findIdx?_eq_some_iff_getElem.mp found).1
  next => exact b.length_addAction k ▸ Nat.lt_succ_self _

/-- Either the action was there and stays at its place, or it comes last and its decision is no default any
more. -/
theorem onAction_cases (b : Builder) (k : ActionKind) (f : Action → Action) :
    (k.takesArgs = false ∧ ∃ before a after, b.actions = before ++ a :: after ∧ a.kind = k ∧
      b.onAction k f = { b with actions := before ++ f a :: after }) ∨
    ((k.takesArgs = true ∨ ∀ a ∈ b.actions, a.kind ≠ k) ∧
      b.onAction k f = { b with
        actions := b.actions ++ [f (.new b.actions.length k)], defaults := b.defaults.erase k.decision }) := by
  have created (existing : (if k.takesArgs then none else b.actions.findIdx? (·.kind = k)) = none) :
      b.onAction k f = { b with
        actions := b.actions ++ [f (.new b.actions.length k)], defaults := b.defaults.erase k.decision } := by
    have last (a : Action) : (b.actions ++ [a]).modify b.actions.length f = b.actions ++ [f a] := by
      rw [List.modify_eq_take_drop, List.take_left, List.drop_left]
      rfl
    unfold onAction findOrAdd addAction modifyAction
    rw [existing]
    simp only [last]
  cases args : k.takesArgs with
  | true =>
    refine .inr ⟨.inl rfl, created ?_⟩
    rw [args]
    rfl
  | false =>
    cases found : b.actions.findIdx? (·.kind = k) with
    | none =>
      refine .inr ⟨.inr ?_, created ?_⟩
      · simpa using found
      · rw [args]
        exact found
    | some place =>
      obtain ⟨inside, called, -⟩ := List.findIdx?_eq_some_iff_getElem.mp found
      obtain ⟨before, a, after, split, length, modified⟩ := List.exists_of_modify f inside
      refine .inl ⟨rfl, before, a, after, split, ?_, ?_⟩
      · simp only [split, ← length] at called
        simpa using called
      · unfold onAction findOrAdd modifyAction
        simp only [args, Bool.false_eq_true, if_false, found, modified]

theorem onAction_personalities (b : Builder) (k : ActionKind) (f : Action → Action) :
    (b.onAction k f).personalities = b.personalities := by
  obtain ⟨-, _, _, _, -, -, changed⟩ | ⟨-, changed⟩ := b.onAction_cases k f <;> rw [changed]

theorem onAction_paths (b : Builder) (k : ActionKind) (f : Action → Action) : (b.onAction k f).paths = b.paths := by
  obtain ⟨-, _, _, _, -, -, changed⟩ | ⟨-, changed⟩ := b.onAction_cases k f <;> rw [changed]

theorem onAction_signals (b : Builder) (k : ActionKind) (f : Action → Action) :
    (b.onAction k f).signals = b.signals := by
  obtain ⟨-, _, _, _, -, -, changed⟩ | ⟨-, changed⟩ := b.onAction_cases k f <;> rw [changed]

theorem enter_eq_onAction (b : Builder) (r : Rule) : b.enter r = b.onAction r.kind r.followedBy := rfl

theorem enter_paths (b : Builder) (r : Rule) : (b.enter r).paths = b.paths := b.onAction_paths r.kind _

theorem enter_signals (b : Builder) (r : Rule) : (b.enter r).signals = b.signals := b.onAction_signals r.kind _

end Builder

/-! ## Grants -/

/-- What an action is asked for with: nothing but its kind, or a rule. -/
inductive Grant where
  | bare (kind : ActionKind)
  | rule (r : Rule)

namespace Grant

def kind : Grant → ActionKind
  | bare k => k
  | rule r => r.kind

def filters : Grant → List Filter
  | bare _ => []
  | rule r => [r.filter]

def data : Grant → Option Injection
  | bare _ => none
  | rule r => r.data

/-- What a grant does to the action of its kind. -/
def give : Grant → Action → Action
  | bare _ => id
  | rule r => r.followedBy

/-- What some grants make of a new action. -/
def make (id : Nat) (k : ActionKind) (grants : List Grant) : Action :=
  grants.foldl (fun a g => g.give a) (.new id k)

@[simp]
theorem give_id (g : Grant) (a : Action) : (g.give a).id = a.id := by cases g <;> rfl

@[simp]
theorem give_kind (g : Grant) (a : Action) : (g.give a).kind = a.kind := by cases g <;> rfl

theorem alternatives_give (g : Grant) {a : Action} (alts : a.Alternatives) : (g.give a).Alternatives := by
  cases g with
  | bare k => exact alts
  | rule r => exact Action.alternatives_addAlternative alts r.filter

theorem give_filters (g : Grant) (a : Action) : (g.give a).filters = a.filters ++ g.filters := by
  cases g with
  | bare k => exact (List.append_nil a.filters).symm
  | rule r => rfl

theorem give_data (g : Grant) (a : Action) : (g.give a).data = g.data.or a.data := by
  cases g <;> rfl

theorem make_concat (id : Nat) (k : ActionKind) (grants : List Grant) (g : Grant) :
    make id k (grants ++ [g]) = g.give (make id k grants) := List.foldl_concat _ _ _ _

theorem make_spec (id : Nat) (k : ActionKind) (grants : List Grant) :
    (make id k grants).id = id ∧ (make id k grants).kind = k ∧ (make id k grants).Alternatives ∧
      (make id k grants).filters = grants.flatMap Grant.filters := by
  induction grants using List.reverseRecOn with
  | nil => exact ⟨rfl, rfl, Action.alternatives_new id k, rfl⟩
  | append_singleton grants g ih =>
    obtain ⟨sameId, sameKind, alts, filters⟩ := ih
    rw [make_concat]
    refine ⟨(g.give_id _).trans sameId, (g.give_kind _).trans sameKind, g.alternatives_give alts, ?_⟩
    rw [give_filters, filters, List.flatMap_append, List.flatMap_singleton]

theorem make_data (id : Nat) (k : ActionKind) {grants : List Grant} (plain : ∀ g ∈ grants, g.data = none) :
    (make id k grants).data = none := by
  induction grants using List.reverseRecOn with
  | nil => rfl
  | append_singleton grants g ih =>
    rw [List.forall_mem_append, List.forall_mem_singleton] at plain
    rw [make_concat, give_data, plain.2, ih plain.1]
    rfl

end Grant

/-! ## What a grant preserves -/

def Builder.kinds (b : Builder) : List ActionKind := b.actions.map (·.kind)

def Builder.give (b : Builder) (g : Grant) : Builder := b.onAction g.kind g.give

/-- What there is after some grants. -/
structure Granted (p : Personalities) (grants : List Grant) (b : Builder) : Prop where
  personalities : b.personalities = p
  numbered : b.actions.map (·.id) = List.range b.actions.length
  present : ∀ k, k ∈ b.kinds ↔ ∃ g ∈ grants, g.kind = k
  /-- Only kinds with arguments have several actions. -/
  alone : ∀ k, k.takesArgs = false → b.kinds.count k ≤ 1
  /-- An action of a kind without arguments is made by all grants of its kind. -/
  shared : ∀ a ∈ b.actions, a.kind.takesArgs = false →
    a = Grant.make a.id a.kind (grants.filter (·.kind = a.kind))
  /-- Every grant of a kind with arguments makes an action of its own, in the same order. -/
  own : List.Forall₂ (fun g a => a = Grant.make a.id g.kind [g]) (grants.filter (·.kind.takesArgs))
    (b.actions.filter (·.kind.takesArgs))
  defaults : b.defaults = Decisions.default.diff (.ofList (b.kinds.map (·.decision)))

theorem granted_new (p : Personalities) : Granted p [] (.new p) where
  personalities := rfl
  numbered := rfl
  present := by simp [Builder.kinds, Builder.new]
  alone := by simp [Builder.kinds, Builder.new]
  shared := nofun
  own := .nil
  defaults := by
    show Decisions.default = Decisions.default.diff (.ofList [])
    decide

namespace Granted

variable {p : Personalities} {grants : List Grant} {b : Builder}

/-! ### Any grants -/

theorem congr (granted : Granted p grants b) {b' : Builder} (personalities : b'.personalities = b.personalities)
    (actions : b'.actions = b.actions) (defaults : b'.defaults = b.defaults) : Granted p grants b' := by
  have kinds : b'.kinds = b.kinds := congrArg (List.map Action.kind) actions
  constructor
  · exact personalities.trans granted.personalities
  · exact actions ▸ granted.numbered
  · exact kinds ▸ granted.present
  · exact kinds ▸ granted.alone
  · exact actions ▸ granted.shared
  · exact actions ▸ granted.own
  · exact defaults ▸ kinds ▸ granted.defaults

theorem others_ne (granted : Granted p grants b) {before after : List Action} {a : Action}
    (split : b.actions = before ++ a :: after) (plain : a.kind.takesArgs = false) :
    (∀ x ∈ before, x.kind ≠ a.kind) ∧ ∀ x ∈ after, x.kind ≠ a.kind := by
  have count := granted.alone a.kind plain
  unfold Builder.kinds at count
  rw [split, List.map_append, List.map_cons, List.count_append, List.count_cons_self] at count
  have none : (((before ++ after).map (·.kind)).count a.kind) = 0 := by
    rw [List.map_append, List.count_append]
    omega
  rw [← List.forall_mem_append]
  intro x mem same
  exact List.count_eq_zero.mp none (same ▸ List.mem_map_of_mem mem)

theorem grow (granted : Granted p grants b) {g : Grant} (plain : g.kind.takesArgs = false)
    {before after : List Action} {a : Action} (split : b.actions = before ++ a :: after) (kind : a.kind = g.kind) :
    Granted p (grants ++ [g]) { b with actions := before ++ g.give a :: after } := by
  have kinds : Builder.kinds { b with actions := before ++ g.give a :: after } = b.kinds := by
    unfold Builder.kinds
    simp only [split, List.map_append, List.map_cons, Grant.give_kind]
  have known : a ∈ b.actions := by simp [split]
  constructor
  · exact granted.personalities
  · simpa [split] using granted.numbered
  · intro k
    rw [kinds, granted.present k]
    have already : g.kind = k → ∃ g' ∈ grants, g'.kind = k := by
      rintro rfl
      exact (granted.present g.kind).mp (List.mem_map.mpr ⟨a, known, kind⟩)
    simp only [List.mem_append, List.mem_singleton, or_and_right, exists_or, exists_eq_left]
    exact (or_iff_left_of_imp already).symm
  · rw [kinds]
    exact granted.alone
  · -- The grants for the other kinds are as before, and the new one comes last for the kind of `a`.
    have others := granted.others_ne split (kind ▸ plain)
    have old := granted.shared
    rw [split, List.forall_mem_append, List.forall_mem_cons] at old
    have same {x : Action} (made : x = Grant.make x.id x.kind (grants.filter (·.kind = x.kind)))
        (other : x.kind ≠ a.kind) : x = Grant.make x.id x.kind ((grants ++ [g]).filter (·.kind = x.kind)) := by
      have apart : g.kind ≠ x.kind := kind ▸ other.symm
      rwa [List.filter_append, List.filter_singleton, decide_eq_false apart, cond_false, List.append_nil]
    rw [List.forall_mem_append, List.forall_mem_cons]
    refine ⟨fun x mem args => same (old.1 x mem args) (others.1 x mem), fun args => ?_,
      fun x mem args => same (old.2.2 x mem args) (others.2 x mem)⟩
    rw [Grant.give_kind] at args
    rw [Grant.give_id, Grant.give_kind, List.filter_append, List.filter_singleton, decide_eq_true kind.symm]
    exact (congrArg g.give (old.2.1 args)).trans (Grant.make_concat _ _ _ g).symm
  · have own := granted.own
    rw [split] at own
    simpa [List.filter_append, List.filter_cons, kind, plain] using own
  · rw [kinds]
    exact granted.defaults

theorem create (granted : Granted p grants b) {g : Grant}
    (new : g.kind.takesArgs = true ∨ ∀ a ∈ b.actions, a.kind ≠ g.kind) :
    Granted p (grants ++ [g]) { b with
      actions := b.actions ++ [g.give (.new b.actions.length g.kind)], defaults := b.defaults.erase g.kind.decision } := by
  have kind : (g.give (.new b.actions.length g.kind)).kind = g.kind := g.give_kind _
  have kinds : Builder.kinds { b with
      actions := b.actions ++ [g.give (.new b.actions.length g.kind)]
      defaults := b.defaults.erase g.kind.decision } = b.kinds ++ [g.kind] := by
    unfold Builder.kinds
    simp only [List.map_append, List.map_cons, List.map_nil, kind]
  have absent (plain : g.kind.takesArgs = false) : g.kind ∉ b.kinds := by
    rcases new with args | absent
    · exact absurd (plain.symm.trans args) Bool.false_ne_true
    · simpa [Builder.kinds] using absent
  constructor
  · exact granted.personalities
  · rw [List.map_append, granted.numbered, List.length_append, List.length_singleton, List.range_succ]
    exact congrArg _ (congrArg (fun n => [n]) (g.give_id _))
  · intro k
    rw [kinds, List.mem_append, granted.present k]
    simp only [List.mem_append, List.mem_singleton, or_and_right, exists_or, exists_eq_left]
    rw [eq_comm]
  · intro k args
    have alone := granted.alone k args
    rw [kinds, List.count_append, List.count_singleton]
    by_cases same : g.kind = k
    · subst same
      rw [List.count_eq_zero.mpr (absent args)]
      simp
    · simpa [same] using alone
  · -- A new action of a kind without arguments is the first one, so no grant was for that kind.
    rw [List.forall_mem_append, List.forall_mem_singleton]
    refine ⟨fun x mem args => ?_, fun args => ?_⟩
    · have other : g.kind ≠ x.kind := fun same => absent (same ▸ args) (same ▸ List.mem_map_of_mem mem)
      rw [List.filter_append, List.filter_singleton, decide_eq_false other]
      simpa using granted.shared x mem args
    · rw [kind] at args ⊢
      have ungranted : grants.filter (·.kind = g.kind) = [] := by
        rw [List.filter_eq_nil_iff]
        intro g' mem same
        exact absent args ((granted.present g.kind).mpr ⟨g', mem, by simpa using same⟩)
      rw [List.filter_append, ungranted, List.filter_singleton, decide_eq_true rfl, Grant.give_id]
      rfl
  · rw [List.filter_append, List.filter_append, List.filter_singleton, List.filter_singleton, kind]
    cases args : g.kind.takesArgs with
    | false => simpa using granted.own
    | true =>
      refine List.rel_append granted.own (.cons ?_ .nil)
      rw [Grant.give_id]
      rfl
  · rw [kinds, granted.defaults, Flags.erase_diff_ofList, List.map_append]
    rfl

theorem give (granted : Granted p grants b) (g : Grant) : Granted p (grants ++ [g]) (b.give g) := by
  unfold Builder.give
  obtain ⟨plain, before, a, after, split, kind, changed⟩ | ⟨new, changed⟩ := b.onAction_cases g.kind g.give <;>
    rw [changed]
  · exact granted.grow plain split kind
  · exact granted.create new

/-! ### What an action was made by -/

theorem made (granted : Granted p grants b) {a : Action} (known : a ∈ b.actions) :
    ∃ gs, gs ≠ [] ∧ (∀ g ∈ gs, g ∈ grants ∧ g.kind = a.kind) ∧ a = Grant.make a.id a.kind gs := by
  cases args : a.kind.takesArgs with
  | false =>
    refine ⟨_, ?_, fun g mem => by simpa using mem, granted.shared a known args⟩
    obtain ⟨g, mem, kind⟩ := (granted.present a.kind).mp (List.mem_map_of_mem known)
    exact List.ne_nil_of_mem (List.mem_filter.mpr ⟨mem, decide_eq_true kind⟩)
  | true =>
    obtain ⟨g, mem, made⟩ := (exists_of_forall₂ granted.own).2 a (List.mem_filter.mpr ⟨known, args⟩)
    have kind : a.kind = g.kind := (congrArg Action.kind made).trans (Grant.make_spec _ _ _).2.1
    refine ⟨[g], List.cons_ne_nil g [], ?_, kind ▸ made⟩
    rw [List.forall_mem_singleton]
    exact ⟨(List.mem_filter.mp mem).1, kind.symm⟩

theorem alternatives (granted : Granted p grants b) : ∀ a ∈ b.actions, a.Alternatives := by
  intro a known
  obtain ⟨gs, -, -, made⟩ := granted.made known
  rw [made]
  exact (Grant.make_spec _ _ gs).2.2.1

theorem exists_of_grant (granted : Granted p grants b) {g : Grant} (mem : g ∈ grants) :
    ∃ a ∈ b.actions, a.kind = g.kind ∧ ∀ f ∈ g.filters, f ∈ a.filters := by
  cases args : g.kind.takesArgs with
  | false =>
    obtain ⟨a, known, kind⟩ := List.mem_map.mp ((granted.present g.kind).mpr ⟨g, mem, rfl⟩)
    refine ⟨a, known, kind, fun f filter => ?_⟩
    rw [granted.shared a known (kind ▸ args), (Grant.make_spec _ _ _).2.2.2]
    exact List.mem_flatMap.mpr ⟨g, List.mem_filter.mpr ⟨mem, decide_eq_true kind.symm⟩, filter⟩
  | true =>
    obtain ⟨a, known, made⟩ := (exists_of_forall₂ granted.own).1 g (List.mem_filter.mpr ⟨mem, args⟩)
    obtain ⟨-, kind, -, filters⟩ := Grant.make_spec a.id g.kind [g]
    rw [← made] at kind filters
    refine ⟨a, (List.mem_filter.mp known).1, kind, fun f filter => ?_⟩
    rw [filters, List.flatMap_singleton]
    exact filter

end Granted

/-! ## Rules alone -/

namespace Builder

/-- What there is after some rules. -/
def Registered (p : Personalities) (rules : List Rule) (b : Builder) : Prop := Granted p (rules.map .rule) b

theorem registered_new (p : Personalities) : Registered p [] (.new p) := granted_new p

namespace Registered

variable {p : Personalities} {rules : List Rule} {b : Builder}

theorem enter (registered : Registered p rules b) (r : Rule) : Registered p (rules ++ [r]) (b.enter r) := by
  unfold Registered
  rw [List.map_append]
  exact Granted.give registered (.rule r)

theorem mem_filters_iff (registered : Registered p rules b) (k : ActionKind) (f : Filter) :
    (∃ a ∈ b.actions, a.kind = k ∧ f ∈ a.filters) ↔ ∃ r ∈ rules, r.kind = k ∧ r.filter = f := by
  constructor
  · rintro ⟨a, known, rfl, filter⟩
    obtain ⟨gs, -, each, made⟩ := Granted.made registered known
    rw [made, (Grant.make_spec _ _ gs).2.2.2, List.mem_flatMap] at filter
    obtain ⟨g, mem, filter⟩ := filter
    obtain ⟨given, kind⟩ := each g mem
    obtain ⟨r, rule, rfl⟩ := List.mem_map.mp given
    exact ⟨r, rule, kind, (List.mem_singleton.mp filter).symm⟩
  · rintro ⟨r, rule, rfl, rfl⟩
    obtain ⟨a, known, kind, filters⟩ := Granted.exists_of_grant registered (List.mem_map_of_mem rule)
    exact ⟨a, known, kind, filters r.filter List.mem_cons_self⟩

theorem nonempty (registered : Registered p rules b) : ∀ a ∈ b.actions, a.filters ≠ [] := by
  intro a known
  obtain ⟨gs, some, each, made⟩ := Granted.made registered known
  obtain ⟨g, mem⟩ := List.exists_mem_of_ne_nil gs some
  obtain ⟨r, -, rfl⟩ := List.mem_map.mp (each g mem).1
  rw [made, (Grant.make_spec _ _ gs).2.2.2]
  exact List.ne_nil_of_mem (List.mem_flatMap.mpr ⟨_, mem, List.mem_cons_self⟩)

theorem mem_kinds_iff (registered : Registered p rules b) (k : ActionKind) :
    k ∈ b.kinds ↔ ∃ r ∈ rules, r.kind = k := by
  rw [Granted.present registered]
  simp only [List.mem_map, exists_exists_and_eq_and, Grant.kind]

theorem exists_action_iff (registered : Registered p rules b) (k : ActionKind) :
    (∃ a ∈ b.actions, a.kind = k) ↔ ∃ r ∈ rules, r.kind = k :=
  List.mem_map.symm.trans (registered.mem_kinds_iff k)

theorem exists_applies_iff (registered : Registered p rules b) (k : ActionKind) (c : Call) :
    (∃ a ∈ b.actions, a.kind = k ∧ a.applies c p = true) ↔
      ∃ r ∈ rules, r.kind = k ∧ r.filter.holds c p = true := by
  constructor
  · rintro ⟨a, mem, kind, applies⟩
    obtain ⟨f, filter, holds⟩ := (Action.applies_of_alternatives (registered.alternatives a mem) c p).mp applies
    obtain ⟨r, rule, same, rfl⟩ := (registered.mem_filters_iff k f).mp ⟨a, mem, kind, filter⟩
    exact ⟨r, rule, same, holds⟩
  · rintro ⟨r, rule, same, holds⟩
    obtain ⟨a, mem, kind, filter⟩ := (registered.mem_filters_iff k r.filter).mpr ⟨r, rule, same, rfl⟩
    exact ⟨a, mem, kind, (Action.applies_of_alternatives (registered.alternatives a mem) c p).mpr
      ⟨r.filter, filter, holds⟩⟩

theorem testBit_defaults (registered : Registered p rules b) (i : Nat) :
    b.defaults.bits.testBit i =
      (Decisions.default.bits.testBit i && !rules.any fun r => Flag.bit r.kind.decision = i) := by
  have mentioned : (b.kinds.any fun k => Flag.bit k.decision = i) = rules.any fun r => Flag.bit r.kind.decision = i := by
    rw [Bool.eq_iff_iff, List.any_eq_true, List.any_eq_true]
    simp only [registered.mem_kinds_iff, exists_exists_and_eq_and]
  rw [Granted.defaults registered, Flags.testBit_diff, Flags.testBit_ofList, List.any_map]
  exact congrArg (fun m => Decisions.default.bits.testBit i && !m) mentioned

theorem testBit_without (registered : Registered p rules b) {a : Action} (known : a ∈ b.actions) (i : Nat) :
    (b.defaults.bits.testBit i && !decide (Flag.bit a.kind.decision = i)) = b.defaults.bits.testBit i := by
  have mem : a.kind.decision ∈ b.kinds.map (·.decision) := List.mem_map_of_mem (List.mem_map_of_mem known)
  rw [Granted.defaults registered, Flags.testBit_diff, Flags.testBit_ofList]
  cases bit : decide (Flag.bit a.kind.decision = i) with
  | false => exact Bool.and_true _
  | true =>
    rw [List.any_eq_true.mpr ⟨_, mem, bit⟩]
    exact (Bool.and_false _).trans (Bool.and_false _).symm

end Registered

end Builder

end SyscallFilter
