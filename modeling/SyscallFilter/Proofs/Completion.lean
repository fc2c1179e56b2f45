import SyscallFilter.Proofs.Finish
import SyscallFilter.Proofs.Request

/-!
# What finishing does to any run of requests

Selected paths narrow the action that traces, and bring one where there is none. The order in which actions run is
then a strict one.
-/

namespace SyscallFilter

namespace Action

/-! ## Well-formed actions -/

theorem wellFormed_of_known {a : Action}
    (known : ∀ clause ∈ a.condition.clauses, ∀ l ∈ clause, l.index < a.filters.length) : a.wellFormed = true := by
  unfold wellFormed
  cases largest : a.condition.maxIndex? with
  | none => rfl
  | some i =>
    have mem : i ∈ a.condition.clauses.flatten.map Literal.index := List.max?_mem largest
    obtain ⟨l, occurs, rfl⟩ := List.mem_map.mp mem
    obtain ⟨clause, among, within⟩ := List.mem_flatten.mp occurs
    exact decide_eq_true (known clause among l within)

theorem wellFormed_of_alternatives {a : Action} (alts : a.Alternatives) : a.wellFormed = true := by
  refine wellFormed_of_known fun clause among l within => ?_
  rw [alts] at among
  obtain ⟨i, known, rfl⟩ := List.mem_map.mp among
  rw [List.mem_singleton.mp within]
  exact List.mem_range.mp known

/-! ## Narrowing -/

/-- The action for calls with a selected path only. Without filters it is for every call of a known
personality. -/
def narrowed (p : Personalities) (paths : PathSet) (a : Action) : Action :=
  let own := if a.filters.isEmpty then [.allCalls p] else a.filters
  { a with
    filters := own ++ [.path paths]
    condition := ⟨(List.range own.length).map fun i => [⟨i, false⟩, ⟨own.length, false⟩]⟩ }

theorem wellFormed_narrowed (p : Personalities) (paths : PathSet) (a : Action) :
    (a.narrowed p paths).wellFormed = true := by
  refine wellFormed_of_known fun clause among l within => ?_
  obtain ⟨i, known, rfl⟩ := List.mem_map.mp among
  rw [List.mem_range] at known
  have length : (a.narrowed p paths).filters.length =
      (if a.filters.isEmpty then [.allCalls p] else a.filters).length + 1 := List.length_append
  simp only [List.mem_cons, List.not_mem_nil, or_false] at within
  rcases within with rfl | rfl <;> rw [length]
  · exact Nat.lt_succ_of_lt known
  · exact Nat.lt_succ_self _

theorem narrowed_eq_limited {a : Action} (alts : a.Alternatives) (p : Personalities) (paths : PathSet) :
    (if a.filters.isEmpty then a.addAlternative (.allCalls p) else a).limited (Filter.path paths) =
      a.narrowed p paths := by
  cases none : a.filters.isEmpty with
  | true =>
    have filters : a.filters = [] := List.isEmpty_iff.mp none
    have condition : a.condition = ⟨[]⟩ := by
      unfold Alternatives at alts
      rw [filters] at alts
      exact congrArg Condition.mk alts
    unfold limited narrowed addAlternative addFilter
    simp [filters, condition, Condition.or, Condition.and]
  | false =>
    have clauses := limited_clauses alts (List.isEmpty_eq_false_iff.mp none) (.path paths)
    unfold narrowed
    simp only [none, Bool.false_eq_true, if_false]
    exact congrArg (fun c => { a.addFilter (.path paths) with condition := ⟨c⟩ }) clauses

end Action

namespace Builder

/-- The actions, with one that traces if there was none. -/
def withTrace (b : Builder) : List Action :=
  if b.actions.any (·.kind = .trace) then b.actions else b.actions ++ [.new b.actions.length .trace]

/-- What the engine runs, up to the order. -/
def finalActions (b : Builder) : List Action :=
  if b.paths.isEmpty then b.actions
  else b.withTrace.map fun a => if a.kind = .trace then a.narrowed b.personalities b.paths else a

section Granted

variable {p : Personalities} {grants : List Grant} {b : Builder}

theorem map_eq_self_of_ne {as : List Action} {k : ActionKind} (others : ∀ a ∈ as, a.kind ≠ k) (f : Action → Action) :
    (as.map fun a => if a.kind = k then f a else a) = as := by
  have each (a : Action) (mem : a ∈ as) : (if a.kind = k then f a else a) = a := if_neg (others a mem)
  rw [List.map_congr_left each, List.map_id']

theorem limited_actions (granted : Granted p grants b) : b.limited.actions = b.finalActions := by
  unfold limited finalActions
  cases paths : b.paths.isEmpty with
  | true => rfl
  | false =>
    simp only [Bool.false_eq_true, if_false]
    rw [limitToPaths_eq]
    obtain ⟨plain, before, a, after, split, kind, changed⟩ | ⟨new, changed⟩ := b.onAction_cases .trace _ <;>
      rw [changed]
    · have others := granted.others_ne split (kind ▸ plain)
      rw [kind] at others
      have known : a ∈ b.actions := by simp [split]
      have traced : (b.actions.any (·.kind = .trace)) = true := by simp [split, kind]
      have alts := granted.alternatives a known
      rw [withTrace, if_pos traced, split, List.map_append, List.map_cons, map_eq_self_of_ne others.1,
        map_eq_self_of_ne others.2, if_pos kind]
      simp only [Action.narrowed_eq_limited alts]
    · -- The new action has no filter yet, so narrowing gives it the one for all calls.
      have absent := new.resolve_left Bool.false_ne_true
      have untraced : ¬ (b.actions.any (·.kind = .trace)) = true := by simpa using absent
      rw [withTrace, if_neg untraced, List.map_append, map_eq_self_of_ne absent]
      simp only [Action.narrowed_eq_limited (Action.alternatives_new _ _)]
      rfl

theorem finish_perm (granted : Granted p grants b) : b.finish.1.actions.Perm b.finalActions := by
  rw [← limited_actions granted, finish_eq]
  exact List.mergeSort_perm b.limited.actions runsBefore

theorem finalActions_numbered (granted : Granted p grants b) :
    b.finalActions.map (·.id) = List.range b.finalActions.length := by
  have withTrace : b.withTrace.map (·.id) = List.range b.withTrace.length := by
    unfold withTrace
    split
    · exact granted.numbered
    · rw [List.map_append, granted.numbered, List.length_append, List.length_singleton, List.range_succ]
      rfl
  unfold finalActions
  split
  · exact granted.numbered
  · rw [List.length_map, ← withTrace, List.map_map]
    refine List.map_congr_left fun a _ => ?_
    simp only [Function.comp_apply]
    split <;> rfl

theorem finish_strict (granted : Granted p grants b) :
    b.finish.1.actions.Pairwise fun a a' =>
      a.kind.priority < a'.kind.priority ∨ a.kind.priority = a'.kind.priority ∧ a'.id < a.id := by
  have distinct : (b.finish.1.actions.map (·.id)).Nodup := by
    rw [((finish_perm granted).map (·.id)).nodup_iff, finalActions_numbered granted]
    exact List.nodup_range
  have sorted : b.finish.1.actions.Pairwise fun a a' => runsBefore a a' = true := by
    rw [finish_eq]
    exact List.pairwise_mergeSort runsBefore_trans runsBefore_total b.limited.actions
  refine (sorted.and (List.pairwise_map.mp distinct)).imp fun {a a'} ⟨before, other⟩ => ?_
  simp only [runsBefore, Bool.or_eq_true, Bool.and_eq_true, decide_eq_true_eq] at before
  omega

theorem wellFormed_finalActions (granted : Granted p grants b) : ∀ a ∈ b.finalActions, a.wellFormed = true := by
  have old (a : Action) (mem : a ∈ b.actions) := Action.wellFormed_of_alternatives (granted.alternatives a mem)
  have withTrace (a : Action) (mem : a ∈ b.withTrace) : a.wellFormed = true := by
    unfold withTrace at mem
    split at mem
    · exact old a mem
    · rcases List.mem_append.mp mem with mem | last
      · exact old a mem
      · rw [List.mem_singleton.mp last]
        rfl
  intro a mem
  unfold finalActions at mem
  split at mem
  · exact old a mem
  · obtain ⟨x, known, rfl⟩ := List.mem_map.mp mem
    split
    · exact Action.wellFormed_narrowed b.personalities b.paths x
    · exact withTrace x known

theorem limited_defaults (granted : Granted p grants b) :
    b.limited.defaults = Decisions.default.diff (.ofList (b.limited.kinds.map (·.decision))) := by
  unfold limited
  split
  · exact granted.defaults
  · have kind (a : Action) : ((if a.filters.isEmpty then a.addAlternative (.allCalls b.personalities) else a).limited
        (.path b.paths)).kind = a.kind := by
      cases a.filters.isEmpty <;> rfl
    have defaults := granted.defaults
    rw [limitToPaths_eq]
    obtain ⟨-, before, a, after, split, -, changed⟩ | ⟨-, changed⟩ := b.onAction_cases .trace _ <;>
      rw [changed] <;> unfold kinds at defaults ⊢
    · rw [split] at defaults
      simpa only [List.map_append, List.map_cons, kind] using defaults
    · simp only [defaults, Flags.erase_diff_ofList, List.map_append, List.map_cons, List.map_nil, kind]
      rfl

theorem finish_defaults (granted : Granted p grants b) :
    b.finish.1.defaults = Decisions.default.diff (.ofList (b.finish.1.actions.map (·.kind.decision))) := by
  have perm : (b.finish.1.actions.map (·.kind.decision)).Perm (b.limited.kinds.map (·.decision)) := by
    rw [kinds, List.map_map, limited_actions granted]
    exact (finish_perm granted).map _
  rw [Flags.ofList_perm perm, ← limited_defaults granted, finish_eq]

end Granted

/-! ## Any run of requests -/

theorem serveAll_registry (p : Personalities) (requests : List Request) :
    let b := (Builder.new p).serveAll requests
    let e := b.finish.1
    Registry p ((Builder.new p).demands requests) b ∧
      b.paths = (requests.filterMap Request.path?).foldl PathSet.select .empty ∧
      e.actions.Perm b.finalActions ∧
      e.actions.Pairwise (fun a a' =>
        a.kind.priority < a'.kind.priority ∨ a.kind.priority = a'.kind.priority ∧ a'.id < a.id) ∧
      (∀ a ∈ e.actions, a.wellFormed = true) ∧
      e.defaults = Decisions.default.diff (.ofList (e.actions.map (·.kind.decision))) := by
  intro b e
  obtain ⟨granted, paths⟩ := (granted_new p).serveAll requests
  have perm : e.actions.Perm b.finalActions := finish_perm granted
  refine ⟨registry_serveAll p requests, paths, perm, finish_strict granted, ?_, finish_defaults granted⟩
  intro a mem
  exact wellFormed_finalActions granted a (perm.mem_iff.mp mem)

end Builder

end SyscallFilter
