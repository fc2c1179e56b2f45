import SyscallFilter.Proofs.Agreement

/-!
# Builders that differ by one alternative

Two builders have the same actions, but for one more alternative in the action of some kind: one of them is ahead. The
same step on both sides keeps it ahead, and a clause on the other side makes up for it. Builders that are level are
finished to engines that decide alike.
-/

namespace SyscallFilter

/-! ## Actions -/

variable {p : Personalities} {k : ActionKind} {more : Call → Bool}

/-- The second action is like the first, but applies to more calls if it is of kind `k`. -/
structure Action.Ahead (p : Personalities) (k : ActionKind) (more : Call → Bool) (a a' : Action) : Prop where
  id : a'.id = a.id
  kind : a'.kind = a.kind
  data : a'.data = a.data
  applies : ∀ c, a'.applies c p = (a.applies c p || decide (a.kind = k) && more c)

namespace Action

theorem Ahead.of_ne {a : Action} (other : a.kind ≠ k) : a.Ahead p k more a :=
  ⟨rfl, rfl, rfl, fun c => by simp [other]⟩

theorem Ahead.followedBy {a a' : Action} (ahead : a.Ahead p k more a') (alts : a.Alternatives)
    (alts' : a'.Alternatives) (r : Rule) : (r.followedBy a).Ahead p k more (r.followedBy a') := by
  refine ⟨ahead.id, ahead.kind, ?_, fun c => ?_⟩
  · simp only [Rule.followedBy, ahead.data]
  · rw [r.applies_followedBy alts, r.applies_followedBy alts', ahead.applies]
    show _ = (a.applies c p || r.filter.holds c p || decide (a.kind = k) && more c)
    exact Bool.or_right_comm _ _ _

theorem Ahead.of_wider {a : Action} (alts : a.Alternatives) (kind : a.kind = k) {f f' g : Filter}
    (wider : ∀ c, f'.holds c p = (f.holds c p || g.holds c p)) :
    (Rule.followedBy ⟨k, f, none⟩ a).Ahead p k (g.holds · p) (Rule.followedBy ⟨k, f', none⟩ a) := by
  refine ⟨rfl, rfl, rfl, fun c => ?_⟩
  have own : (Rule.followedBy ⟨k, f, none⟩ a).kind = k := kind
  rw [Rule.applies_followedBy _ alts, Rule.applies_followedBy _ alts, own, wider]
  simp [Bool.or_assoc]

end Action

namespace Builder

/-! ## The action of a kind -/

/-- The builder has the action to which rules of the kind add. -/
def Shares (b : Builder) (k : ActionKind) : Prop := k.takesArgs = false ∧ ∃ a ∈ b.actions, a.kind = k

theorem onAction_of_shared {rules : List Rule} {b : Builder} (registered : Registered p rules b) (shared : b.Shares k)
    (f : Action → Action) :
    b.onAction k f = { b with actions := b.actions.map fun a => if a.kind = k then f a else a } := by
  obtain ⟨plain, x, mem, kind⟩ := shared
  obtain ⟨-, before, a, after, split, kind, changed⟩ | ⟨new, -⟩ := b.onAction_cases k f
  · obtain ⟨noneBefore, noneAfter⟩ := registered.others_ne split (kind ▸ plain)
    rw [kind] at noneBefore noneAfter
    rw [changed, split, List.map_append, List.map_cons, map_eq_self_of_ne noneBefore, map_eq_self_of_ne noneAfter,
      if_pos kind]
  · rcases new with args | absent
    · exact absurd (plain.symm.trans args) Bool.false_ne_true
    · exact absurd kind (absent x mem)

theorem onAction_of_fresh {b : Builder} (fresh : ¬ b.Shares k) (f : Action → Action) :
    b.onAction k f = { b with
      actions := b.actions ++ [f (.new b.actions.length k)], defaults := b.defaults.erase k.decision } := by
  obtain ⟨plain, before, a, after, split, kind, -⟩ | ⟨-, changed⟩ := b.onAction_cases k f
  · exact absurd ⟨plain, a, by simp [split], kind⟩ fresh
  · exact changed

/-! ## One builder ahead of another -/

structure Ahead (p : Personalities) (k : ActionKind) (more : Call → Bool) (b b' : Builder) : Prop where
  registered : ∃ rules, Registered p rules b
  registered' : ∃ rules, Registered p rules b'
  shared : b.Shares k
  actions : List.Forall₂ (Action.Ahead p k more) b.actions b'.actions
  defaults : b'.defaults = b.defaults
  paths : b'.paths = b.paths

namespace Ahead

variable {b b' : Builder}

theorem shares_iff (ahead : Ahead p k more b b') (k' : ActionKind) : b'.Shares k' ↔ b.Shares k' := by
  have kinds : b.actions.map (·.kind) = b'.actions.map (·.kind) := by
    rw [← List.forall₂_eq_eq_eq, List.forall₂_map_left_iff, List.forall₂_map_right_iff]
    exact ahead.actions.imp fun a a' pair => pair.kind.symm
  unfold Shares
  rw [← List.mem_map, ← List.mem_map, kinds]

theorem onAction (ahead : Ahead p k more b b') (k' : ActionKind) {f f' : Action → Action}
    (old : ∀ a ∈ b.actions, ∀ a' ∈ b'.actions, a.kind = k' → a.Ahead p k more a' → (f a).Ahead p k more (f' a'))
    (new : k' ≠ k → ∀ n, (f (.new n k')).Ahead p k more (f' (.new n k'))) :
    List.Forall₂ (Action.Ahead p k more) (b.onAction k' f).actions (b'.onAction k' f').actions ∧
      (b'.onAction k' f').defaults = (b.onAction k' f).defaults := by
  obtain ⟨rules, registered⟩ := ahead.registered
  obtain ⟨rules', registered'⟩ := ahead.registered'
  by_cases shared : b.Shares k'
  · rw [onAction_of_shared registered shared, onAction_of_shared registered' ((ahead.shares_iff k').mpr shared),
      List.forall₂_map_left_iff, List.forall₂_map_right_iff]
    refine ⟨(forall₂_mem ahead.actions).imp fun a a' ⟨mem, mem', pair⟩ => ?_, ahead.defaults⟩
    rw [pair.kind]
    split
    next kind => exact old a mem a' mem' kind pair
    next => exact pair
  · -- The kind that is ahead has its action, so this is another kind.
    have other : k' ≠ k := fun same => shared (same ▸ ahead.shared)
    rw [onAction_of_fresh shared, onAction_of_fresh (mt (ahead.shares_iff k').mp shared), ahead.actions.length_eq,
      ahead.defaults]
    exact ⟨List.rel_append ahead.actions (.cons (new other _) .nil), rfl⟩

theorem shares_onAction {rules : List Rule} (registered : Registered p rules b) (shared : b.Shares k)
    (k' : ActionKind) {f : Action → Action} (kind : ∀ a, (f a).kind = a.kind) : (b.onAction k' f).Shares k := by
  obtain ⟨plain, x, mem, own⟩ := shared
  refine ⟨plain, ?_⟩
  by_cases shared' : b.Shares k'
  · rw [onAction_of_shared registered shared']
    refine ⟨_, List.mem_map_of_mem mem, ?_⟩
    split
    · rw [kind, own]
    · exact own
  · rw [onAction_of_fresh shared']
    exact ⟨x, List.mem_append_left _ mem, own⟩

theorem enter (ahead : Ahead p k more b b') (r : Rule) : Ahead p k more (b.enter r) (b'.enter r) := by
  obtain ⟨rules, registered⟩ := ahead.registered
  obtain ⟨rules', registered'⟩ := ahead.registered'
  obtain ⟨actions, defaults⟩ := ahead.onAction r.kind
    (fun a mem a' mem' _ pair => pair.followedBy (registered.alternatives a mem) (registered'.alternatives a' mem') r)
    (fun other n => .of_ne other)
  refine ⟨⟨_, registered.enter r⟩, ⟨_, registered'.enter r⟩, ?_, actions, defaults, ?_⟩
  · exact shares_onAction registered ahead.shared r.kind fun _ => rfl
  · rw [enter_paths, enter_paths, ahead.paths]

theorem withSignals (ahead : Ahead p k more b b') (s s' : NumberSet) :
    Ahead p k more { b with signals := s } { b' with signals := s' } := by
  obtain ⟨rules, registered⟩ := ahead.registered
  obtain ⟨rules', registered'⟩ := ahead.registered'
  exact ⟨⟨_, registered.congr rfl rfl rfl⟩, ⟨_, registered'.congr rfl rfl rfl⟩, ahead.shared, ahead.actions,
    ahead.defaults, ahead.paths⟩

theorem tracePath (ahead : Ahead p k more b b') (q : String) : Ahead p k more (b.tracePath q) (b'.tracePath q) := by
  obtain ⟨rules, registered⟩ := ahead.registered
  obtain ⟨rules', registered'⟩ := ahead.registered'
  exact ⟨⟨_, registered.congr rfl rfl rfl⟩, ⟨_, registered'.congr rfl rfl rfl⟩, ahead.shared, ahead.actions,
    ahead.defaults, congrArg (·.select q) ahead.paths⟩

theorem take (ahead : Ahead p k more b b') (step : Step) : Ahead p k more (b.take step) (b'.take step) := by
  obtain ⟨rules, registered⟩ := ahead.registered
  obtain ⟨rules', registered'⟩ := ahead.registered'
  have same : b'.personalities = b.personalities := registered'.personalities.trans registered.personalities.symm
  cases rule : step.rule? b.personalities with
  | some r =>
    rw [take_of_rule rule, take_of_rule (same ▸ rule)]
    exact ahead.enter r
  | none =>
    cases path : step.path? with
    | some q =>
      rw [take_of_path path, take_of_path path]
      exact ahead.tracePath q
    | none =>
      obtain ⟨s, taken⟩ := take_of_idle rule path
      obtain ⟨s', taken'⟩ := take_of_idle (same ▸ rule) path
      rw [taken, taken']
      exact ahead.withSignals s s'

theorem takeAll (ahead : Ahead p k more b b') (steps : List Step) :
    Ahead p k more (b.takeAll steps) (b'.takeAll steps) := by
  induction steps generalizing b b' with
  | nil => exact ahead
  | cons step rest ih => exact ih (ahead.take step)

end Ahead

/-! ## Getting ahead and catching up -/

theorem shares_enter {rules : List Rule} {b : Builder} (registered : Registered p rules b) (plain : k.takesArgs = false)
    (f : Filter) : (b.enter ⟨k, f, none⟩).Shares k := by
  rw [enter_eq_onAction]
  by_cases shared : b.Shares k
  · exact Ahead.shares_onAction registered shared k fun _ => rfl
  · rw [onAction_of_fresh shared]
    exact ⟨plain, _, List.mem_append_right _ List.mem_cons_self, rfl⟩

theorem ahead_enter {rules : List Rule} {b : Builder} (registered : Registered p rules b) (plain : k.takesArgs = false)
    {f f' g : Filter} (wider : ∀ c, f'.holds c p = (f.holds c p || g.holds c p)) :
    Ahead p k (g.holds · p) (b.enter ⟨k, f, none⟩) (b.enter ⟨k, f', none⟩) := by
  refine ⟨⟨_, registered.enter _⟩, ⟨_, registered.enter _⟩, shares_enter registered plain f, ?_, ?_, ?_⟩
  · rw [enter_eq_onAction, enter_eq_onAction]
    by_cases shared : b.Shares k
    · rw [onAction_of_shared registered shared, onAction_of_shared registered shared, List.forall₂_map_left_iff,
        List.forall₂_map_right_iff, List.forall₂_same]
      intro a mem
      split
      next kind => exact .of_wider (registered.alternatives a mem) kind wider
      next other => exact .of_ne other
    · have others (a : Action) (mem : a ∈ b.actions) : a.kind ≠ k := fun kind => shared ⟨plain, a, mem, kind⟩
      rw [onAction_of_fresh shared, onAction_of_fresh shared]
      refine List.rel_append (List.forall₂_same.mpr fun a mem => .of_ne (others a mem)) (.cons ?_ .nil)
      exact .of_wider (Action.alternatives_new _ _) rfl wider
  · rw [enter_eq_onAction, enter_eq_onAction]
    by_cases shared : b.Shares k
    · rw [onAction_of_shared registered shared, onAction_of_shared registered shared]
    · rw [onAction_of_fresh shared, onAction_of_fresh shared]
  · rw [enter_paths, enter_paths]

theorem Ahead.catchUp {b b' : Builder} {g : Filter} (ahead : Ahead p k (g.holds · p) b b') :
    Ahead p k (fun _ => false) (b.enter ⟨k, g, none⟩) b' := by
  obtain ⟨rules, registered⟩ := ahead.registered
  have entered : b.enter ⟨k, g, none⟩ =
      { b with actions := b.actions.map fun a => if a.kind = k then Rule.followedBy ⟨k, g, none⟩ a else a } :=
    onAction_of_shared registered ahead.shared _
  refine ⟨⟨_, registered.enter _⟩, ahead.registered', shares_enter registered ahead.shared.1 g, ?_, ?_, ?_⟩
  · rw [entered, List.forall₂_map_left_iff]
    refine (forall₂_mem ahead.actions).imp fun a a' ⟨mem, _, pair⟩ => ?_
    split
    next kind =>
      refine ⟨pair.id, pair.kind, pair.data, fun c => ?_⟩
      rw [Rule.applies_followedBy _ (registered.alternatives a mem), pair.applies]
      simp [kind]
    next other => exact ⟨pair.id, pair.kind, pair.data, fun c => by simp [pair.applies, other]⟩
  · rw [entered, ahead.defaults]
  · rw [entered, ahead.paths]

theorem level_of_wider {rules : List Rule} {b : Builder} (registered : Registered p rules b)
    (plain : k.takesArgs = false) {f f' g : Filter} (wider : ∀ c, f'.holds c p = (f.holds c p || g.holds c p))
    (between after : List Step) :
    Ahead p k (fun _ => false) ((((b.enter ⟨k, f, none⟩).takeAll between).enter ⟨k, g, none⟩).takeAll after)
      (((b.enter ⟨k, f', none⟩).takeAll between).takeAll after) :=
  ((ahead_enter registered plain wider).takeAll between).catchUp.takeAll after

/-! ## Level builders -/

theorem Ahead.limited {b b' : Builder} (level : Ahead p k (fun _ => false) b b') :
    List.Forall₂ (Action.Ahead p k fun _ => false) b.limited.actions b'.limited.actions ∧
      b'.limited.defaults = b.limited.defaults := by
  obtain ⟨rules, registered⟩ := level.registered
  obtain ⟨rules', registered'⟩ := level.registered'
  unfold Builder.limited
  rw [level.paths]
  split
  · exact ⟨level.actions, level.defaults⟩
  rw [limitToPaths_eq, limitToPaths_eq, registered.personalities, registered'.personalities, level.paths]
  refine level.onAction .trace (fun a mem a' mem' _ pair => ?_) fun other n => .of_ne ?_
  · have nonempty := registered.nonempty a mem
    have nonempty' := registered'.nonempty a' mem'
    rw [if_neg (by simpa using nonempty), if_neg (by simpa using nonempty')]
    refine ⟨pair.id, pair.kind, pair.data, fun c => ?_⟩
    rw [Action.applies_limited (registered.alternatives a mem) nonempty,
      Action.applies_limited (registered'.alternatives a' mem') nonempty', pair.applies]
    simp
  · exact other

variable {σ τ : Type} {h : Handler σ} {h' : Handler τ}

/-- Level builders are finished to engines that decide alike, whatever these were used for before. -/
theorem Ahead.dispatch {b b' : Builder} (level : Ahead p k (fun _ => false) b b') (history history' : List Engine.Turn)
    (passive : h.Passive) (passive' : h'.Passive) (s : σ) (s' : τ) (call : Call) :
    let run := ((b.finish.1.after history).dispatch (Engine.recording h) ([], s) call).2
    let run' := ((b'.finish.1.after history').dispatch (Engine.recording h') ([], s') call).2
    run'.state.1.map Invocation.report = run.state.1.map Invocation.report ∧
      run'.call.decisions = run.call.decisions := by
  obtain ⟨rules, registered⟩ := level.registered
  obtain ⟨rules', registered'⟩ := level.registered'
  obtain ⟨actions, defaults⟩ := level.limited
  have entered : b'.finish.1.enter call = b.finish.1.enter call := by
    unfold Engine.enter
    rw [finish_eq, finish_eq, defaults]
  have finished := finish_forall₂ (fun _ _ pair => ⟨pair.id, pair.kind⟩) actions
  refine Engine.dispatch_of_matches (registered'.personalities.trans registered.personalities.symm)
    (congrArg Call.decisions entered) (finished.imp fun a a' pair => ⟨pair.kind, pair.data, ?_⟩) history history' passive
    passive' s s'
  rw [entered, registered.personalities, pair.applies, Bool.and_false, Bool.or_false]

end Builder

end SyscallFilter
