import SyscallFilter.Proofs.Agreement

/-!
# Clauses and paths apart

Clauses never look at the selected paths, and selecting a path never looks at the actions. So a run is the run of its
clauses with the selection of its paths, however the two are interleaved.
-/

namespace SyscallFilter

def Step.clause? : Step → Option Clause
  | clause c => some c
  | path _ => none

def clausesOf (steps : List Step) : List Clause := steps.filterMap Step.clause?

namespace Builder

/-- What becomes of the clauses of a run, each where it stands. -/
def results : Builder → List Step → List (Except ClauseError Unit)
  | _, [] => []
  | b, .clause c :: rest => (b.apply c).result :: (b.take (.clause c)).results rest
  | b, .path q :: rest => (b.take (.path q)).results rest

theorem results_eq (b : Builder) (steps : List Step) :
    b.results steps = (clausesOf steps).map (·.verdict b.personalities) := by
  induction steps generalizing b with
  | nil => rfl
  | cons step rest ih =>
    have same := b.take_personalities step
    cases step with
    | clause c =>
      rw [results, ih, same, b.apply_result]
      rfl
    | path q =>
      rw [results, ih, same]
      rfl

/-! ## Another selection of paths -/

/-- The builder with these paths selected and no others. -/
def withPaths (b : Builder) (s : PathSet) : Builder := { b with paths := s }

theorem findOrAdd_withPaths (b : Builder) (s : PathSet) (k : ActionKind) :
    (b.withPaths s).findOrAdd k = ((b.findOrAdd k).1, (b.findOrAdd k).2.1.withPaths s, (b.findOrAdd k).2.2) := by
  unfold findOrAdd withPaths
  dsimp only
  split <;> rfl

theorem enter_withPaths (b : Builder) (s : PathSet) (r : Rule) :
    (b.withPaths s).enter r = (b.enter r).withPaths s := by
  unfold enter
  rw [findOrAdd_withPaths]
  rfl

theorem apply_withPaths (b : Builder) (s : PathSet) (c : Clause) :
    ((b.withPaths s).apply c).state = (b.apply c).state.withPaths s := by
  cases name : Qualifier.ofName? c.name with
  | none => rw [((b.withPaths s).apply_unknown c name).2, (b.apply_unknown c name).2]
  | some q =>
    cases q with
    | signals =>
      rw [((b.withPaths s).apply_signals c name).2, (b.apply_signals c name).2]
      rfl
    | action k =>
      have entered := b.apply_action c name
      have entered' := (b.withPaths s).apply_action c name
      have same : (b.withPaths s).personalities = b.personalities := rfl
      rw [same] at entered'
      cases rule : c.rule k b.personalities with
      | error e =>
        rw [rule] at entered entered'
        rw [entered.2, entered'.2]
      | ok r =>
        rw [rule] at entered entered'
        rw [entered.2, entered'.2, enter_withPaths]

theorem apply_paths (b : Builder) (c : Clause) : (b.apply c).state.paths = b.paths := by
  have same : (b.apply c).state = (b.apply c).state.withPaths b.paths := b.apply_withPaths b.paths c
  rw [same]
  rfl

theorem takeAll_clauses_withPaths (b : Builder) (s : PathSet) (cs : List Clause) :
    (b.withPaths s).takeAll (cs.map .clause) = (b.takeAll (cs.map .clause)).withPaths s := by
  induction cs generalizing b with
  | nil => rfl
  | cons c rest ih =>
    have next : (b.withPaths s).take (.clause c) = (b.take (.clause c)).withPaths s := b.apply_withPaths s c
    unfold takeAll at ih ⊢
    rw [List.map_cons, List.foldl_cons, List.foldl_cons, next, ih]

/-- A run is the run of its clauses with the selection of its paths. -/
theorem takeAll_eq (b : Builder) (steps : List Step) :
    b.takeAll steps =
      (b.takeAll ((clausesOf steps).map .clause)).withPaths ((pathsOf steps).foldl PathSet.select b.paths) := by
  induction steps generalizing b with
  | nil => rfl
  | cons step rest ih =>
    have next : b.takeAll (step :: rest) = (b.take step).takeAll rest := rfl
    rw [next, ih]
    cases step with
    | clause c =>
      have kept : (b.take (.clause c)).paths = b.paths := b.apply_paths c
      rw [kept]
      rfl
    | path q =>
      have selected : b.take (.path q) = b.withPaths (b.paths.select q) := rfl
      rw [selected, takeAll_clauses_withPaths]
      rfl

theorem take_path_again {b : Builder} {q : String} (already : b.paths.contains q = true) : b.take (.path q) = b := by
  have same : b.paths.select q = b.paths := if_pos already
  show b.withPaths (b.paths.select q) = b
  rw [same]
  rfl

end Builder

/-! ## Selections of the same paths -/

theorem Action.applies_narrowed_congr (a : Action) (p : Personalities) {s s' : PathSet} {c : Call}
    (meets : s'.meets c.paths = s.meets c.paths) :
    (a.narrowed p s').applies c p = (a.narrowed p s).applies c p := by
  rw [← Action.holds_eq_applies, ← Action.holds_eq_applies]
  unfold Action.holds Action.narrowed
  simp only [List.map_append, List.map_cons, List.map_nil, Filter.holds, meets]

namespace Builder

section Selections

variable {p : Personalities} {rules : List Rule} {b : Builder} {s s' : PathSet}

theorem finish_matches (registered : Registered p rules b) (empty : s'.isEmpty = s.isEmpty) {c : Call}
    (meets : s'.meets c.paths = s.meets c.paths) :
    List.Forall₂ (Action.Matches p c c) (b.withPaths s).finish.1.actions (b.withPaths s').finish.1.actions := by
  have registered' (s : PathSet) : Registered p rules (b.withPaths s) := registered.congr rfl rfl rfl
  have limited : List.Forall₂ (fun a a' => a'.id = a.id ∧ Action.Matches p c c a a') (b.withPaths s).limited.actions
      (b.withPaths s').limited.actions := by
    rw [limited_actions (registered' s), limited_actions (registered' s')]
    unfold finalActions
    cases none : s.isEmpty with
    | true =>
      have none' := empty.trans none
      simp only [withPaths, none, none', if_true]
      exact List.forall₂_same.mpr fun a _ => ⟨rfl, rfl, rfl, rfl⟩
    | false =>
      have some' := empty.trans none
      simp only [withPaths, none, some', Bool.false_eq_true, if_false, List.forall₂_map_left_iff,
        List.forall₂_map_right_iff]
      refine List.forall₂_same.mpr fun a _ => ?_
      split
      · rw [registered.personalities]
        exact ⟨rfl, rfl, rfl, a.applies_narrowed_congr p meets⟩
      · exact ⟨rfl, rfl, rfl, rfl⟩
  exact (finish_forall₂ (fun _ _ pair => ⟨pair.1, pair.2.kind⟩) limited).imp fun _ _ pair => pair.2

theorem finish_defaults_withPaths (registered : Registered p rules b) (empty : s'.isEmpty = s.isEmpty)
    (meets : ∀ paths, s'.meets paths = s.meets paths) :
    (b.withPaths s').finish.1.defaults = (b.withPaths s).finish.1.defaults := by
  have registered' (s : PathSet) : Registered p rules (b.withPaths s) := registered.congr rfl rfl rfl
  have kinds : (b.withPaths s).finish.1.actions.map (·.kind.decision) =
      (b.withPaths s').finish.1.actions.map (·.kind.decision) := by
    rw [← List.forall₂_eq_eq_eq, List.forall₂_map_left_iff, List.forall₂_map_right_iff]
    refine (finish_matches registered empty (c := .new 0 0) (meets _)).imp fun a a' alike => ?_
    rw [alike.kind]
  rw [finish_defaults (registered' s), finish_defaults (registered' s'), kinds]

variable {σ τ : Type} {h : Handler σ} {h' : Handler τ}

theorem dispatch_withPaths (registered : Registered p rules b) (empty : s'.isEmpty = s.isEmpty)
    (meets : ∀ paths, s'.meets paths = s.meets paths) (history history' : List Engine.Turn) (passive : h.Passive)
    (passive' : h'.Passive) (st : σ) (st' : τ) (call : Call) :
    let run := (((b.withPaths s).finish.1.after history).dispatch (Engine.recording h) ([], st) call).2
    let run' := (((b.withPaths s').finish.1.after history').dispatch (Engine.recording h') ([], st') call).2
    run'.state.1.map Invocation.report = run.state.1.map Invocation.report ∧
      run'.call.decisions = run.call.decisions := by
  have entered : (b.withPaths s').finish.1.enter call = (b.withPaths s).finish.1.enter call := by
    unfold Engine.enter
    rw [finish_defaults_withPaths registered empty meets]
  have matched : List.Forall₂ (Action.Matches b.personalities ((b.withPaths s).finish.1.enter call)
      ((b.withPaths s').finish.1.enter call)) (b.withPaths s).finish.1.actions (b.withPaths s').finish.1.actions := by
    rw [entered, registered.personalities]
    exact finish_matches registered empty (meets _)
  have same : (b.withPaths s').personalities = (b.withPaths s).personalities := rfl
  exact Engine.dispatch_of_matches same (congrArg Call.decisions entered) matched history history' passive passive' st
    st'

end Selections

/-! ## Any interleaving -/

theorem takeAll_paths (p : Personalities) (steps : List Step) :
    ((Builder.new p).takeAll steps).paths = (pathsOf steps).foldl PathSet.select .empty := by
  rw [takeAll_eq]
  rfl

theorem clausesOf_build (texts paths : List String) :
    clausesOf (Config.clauseSteps texts ++ paths.map .path) = texts.map .split := by
  have none (paths : List String) : clausesOf (paths.map .path) = [] := by
    unfold clausesOf
    rw [List.filterMap_map, List.filterMap_eq_nil_iff]
    exact fun _ _ => rfl
  have all (texts : List String) : clausesOf (Config.clauseSteps texts) = texts.map .split := by
    unfold clausesOf Config.clauseSteps
    rw [List.filterMap_map, ← List.filterMap_eq_map]
    rfl
  have split : clausesOf (Config.clauseSteps texts ++ paths.map .path) =
      clausesOf (Config.clauseSteps texts) ++ clausesOf (paths.map .path) := List.filterMap_append
  rw [split, all, none, List.append_nil]

theorem pathsOf_build (texts paths : List String) :
    pathsOf (Config.clauseSteps texts ++ paths.map .path) = paths := by
  have none : pathsOf (Config.clauseSteps texts) = [] := by
    unfold pathsOf Config.clauseSteps
    rw [List.filterMap_map, List.filterMap_eq_nil_iff]
    exact fun _ _ => rfl
  have all : pathsOf (paths.map .path) = paths := by
    unfold pathsOf
    rw [List.filterMap_map]
    exact List.filterMap_some
  have split : pathsOf (Config.clauseSteps texts ++ paths.map .path) =
      pathsOf (Config.clauseSteps texts) ++ pathsOf (paths.map .path) := List.filterMap_append
  rw [split, none, all, List.nil_append]

/-- Clauses keep their order among themselves, and paths come in any order and place. What a clause comes to is the
same, and so is what is decided about a call. The engine itself is the same if the paths keep their order, it is the
one that is built with all clauses first, and a path that is selected again makes no difference to it. -/
theorem finish_interleaved (p : Personalities) {steps steps' : List Step}
    (clauses : clausesOf steps' = clausesOf steps) (paths : (pathsOf steps').Perm (pathsOf steps)) :
    let b := (Builder.new p).takeAll steps
    let b' := (Builder.new p).takeAll steps'
    (Builder.new p).results steps' = (Builder.new p).results steps ∧
      (pathsOf steps' = pathsOf steps → b'.finish = b.finish) ∧
      (∀ texts, clausesOf steps = texts.map Clause.split → (∀ r ∈ (Builder.new p).results steps, r = .ok ()) →
        (Config.build ⟨texts, pathsOf steps⟩ p).1 = .ok b.finish.1) ∧
      (∀ before q again after, steps = before ++ .path again :: after → q ∈ pathsOf before →
        Path.same q again = true → (Builder.new p).takeAll (before ++ after) = b) ∧
      ∀ (σ τ : Type) (h : Handler σ) (h' : Handler τ), h.Passive → h'.Passive →
        ∀ (history history' : List Engine.Turn) (s : σ) (s' : τ) (call : Call),
          let run := ((b.finish.1.after history).dispatch (Engine.recording h) ([], s) call).2
          let run' := ((b'.finish.1.after history').dispatch (Engine.recording h') ([], s') call).2
          run'.state.1.map Invocation.report = run.state.1.map Invocation.report ∧
            run'.call.decisions = run.call.decisions := by
  intro b b'
  have apart : b = _ := takeAll_eq (.new p) steps
  have apart' : b' = _ := takeAll_eq (.new p) steps'
  rw [clauses] at apart'
  refine ⟨?_, ?_, ?_, ?_, ?_⟩
  · rw [results_eq, results_eq, clauses]
  · intro same
    rw [apart, apart', same]
  · intro texts split accepted
    have each : ∀ text ∈ texts, Config.verdict p text = .ok () := by
      intro text mem
      refine accepted _ ?_
      rw [results_eq, split, List.map_map]
      exact List.mem_map_of_mem mem
    rw [Config.build_of_accepted each, takeAll_eq, clausesOf_build, pathsOf_build, apart, split]
  · rintro before q again after rfl selected same
    have already : ((Builder.new p).takeAll before).paths.contains again = true := by
      rw [takeAll_paths, PathSet.contains_foldl_select]
      exact .inr ⟨q, selected, same⟩
    have next : b = (((Builder.new p).takeAll before).take (.path again)).takeAll after := takeAll_append _ _ _
    rw [next, take_path_again already, takeAll_append]
  · intro σ τ h h' passive passive' history history' s s' call
    obtain ⟨registered, -⟩ := registered_takeAll p ((clausesOf steps).map .clause)
    have empty : ((pathsOf steps').foldl PathSet.select .empty).isEmpty =
        ((pathsOf steps).foldl PathSet.select .empty).isEmpty := by
      rw [PathSet.isEmpty_foldl_select, PathSet.isEmpty_foldl_select, paths.isEmpty_eq]
    have meets (qs : List String) := PathSet.meets_perm paths .empty qs
    rw [apart, apart']
    exact dispatch_withPaths registered empty meets history history' passive passive' s s' call

theorem finish_interleaved_spelled_again :
    let p : Personalities := ⟨[⟨"demo", [⟨some "read", .empty⟩, ⟨some "open", .empty⟩]⟩], List.cons_ne_nil _ _⟩
    let steps : List Step := [.path "/tmp", .clause (.split "raw=open"), .path "/etc", .clause (.split "trace=nope"),
      .path "/tmp/", .clause (.split "fault=open")]
    let steps' : List Step := [.clause (.split "raw=open"), .path "/tmp/", .clause (.split "trace=nope"),
      .clause (.split "fault=open"), .path "/tmp", .path "/etc"]
    let b := (Builder.new p).takeAll steps
    let b' := (Builder.new p).takeAll steps'
    let call : Call := { Call.new 0 1 with paths := ["//tmp"] }
    let run := ((b.finish.1.after []).dispatch (Engine.recording .none) ([], ()) call).2
    let run' := ((b'.finish.1.after []).dispatch (Engine.recording .none) ([], ()) call).2
    clausesOf steps' = clausesOf steps ∧ (pathsOf steps').Perm (pathsOf steps) ∧
      (Builder.new p).results steps' = (Builder.new p).results steps ∧
      (Builder.new p).takeAll (steps.take 4 ++ steps.drop 5) = b ∧
      run'.state.1.map Invocation.report = run.state.1.map Invocation.report ∧
      run'.call.decisions = run.call.decisions := by
  -- A refused clause, a path in two spellings, and another order of the paths.
  intro p steps steps' b b' call run run'
  have clauses : clausesOf steps' = clausesOf steps := rfl
  have paths : (pathsOf steps').Perm (pathsOf steps) := by decide
  have passive : Handler.none.Passive := fun _ _ _ _ => rfl
  obtain ⟨results, -, -, again, same⟩ := finish_interleaved p clauses paths
  have dropped := again (steps.take 4) "/tmp" "/tmp/" (steps.drop 5) rfl (by decide) (by decide)
  have decided := same Unit Unit .none .none passive passive [] [] () () call
  simp only [b, b', run, run']
  exact ⟨clauses, paths, results, dropped, decided⟩

end Builder

end SyscallFilter
