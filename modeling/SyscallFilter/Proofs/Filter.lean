import SyscallFilter.Filter

/-! # Which paths are selected, and which arguments of a call are descriptors -/

namespace SyscallFilter

/-! ## Selected paths, by their components -/

theorem Path.same_iff (a b : String) : Path.same a b = true ↔ Path.components a = Path.components b := by
  unfold Path.same
  rw [beq_iff_eq]

namespace PathSet

theorem contains_iff (s : PathSet) (path : String) :
    s.contains path = true ↔ ∃ q ∈ s.paths, Path.same q path = true := by
  unfold contains
  rw [List.any_eq_true]

theorem contains_select (s : PathSet) (q path : String) :
    (s.select q).contains path = true ↔ s.contains path = true ∨ Path.same q path = true := by
  unfold select
  split
  next already =>
    refine (or_iff_left_of_imp fun same => ?_).symm
    obtain ⟨kept, mem, spelling⟩ := (s.contains_iff q).mp already
    rw [Path.same_iff] at same spelling
    exact (s.contains_iff path).mpr ⟨kept, mem, (Path.same_iff kept path).mpr (spelling.trans same)⟩
  next =>
    rw [contains_iff, contains_iff]
    simp only [List.mem_append, List.mem_singleton, or_and_right, exists_or, exists_eq_left]

theorem isEmpty_select (s : PathSet) (q : String) : (s.select q).isEmpty = false := by
  unfold select
  split
  next already =>
    obtain ⟨kept, mem, -⟩ := (s.contains_iff q).mp already
    exact List.isEmpty_eq_false_iff_exists_mem.mpr ⟨kept, mem⟩
  next =>
    unfold isEmpty
    rw [List.isEmpty_eq_false_iff]
    exact List.append_ne_nil_of_right_ne_nil s.paths (List.cons_ne_nil q [])

theorem contains_foldl_select (qs : List String) (s : PathSet) (path : String) :
    (qs.foldl select s).contains path = true ↔ s.contains path = true ∨ ∃ q ∈ qs, Path.same q path = true := by
  induction qs generalizing s with
  | nil => simp
  | cons q qs ih =>
    rw [List.foldl_cons, ih, contains_select, or_assoc]
    simp only [List.mem_cons, or_and_right, exists_or, exists_eq_left]

theorem isEmpty_foldl_select (qs : List String) (s : PathSet) :
    (qs.foldl select s).isEmpty = (s.isEmpty && qs.isEmpty) := by
  induction qs generalizing s with
  | nil => exact (Bool.and_true _).symm
  | cons q qs ih => rw [List.foldl_cons, ih, isEmpty_select, List.isEmpty_cons, Bool.false_and, Bool.and_false]

theorem isEmpty_of_selected {qs : List String} (limited : qs ≠ []) (s : PathSet) :
    (qs.foldl select s).isEmpty = false := by
  rw [isEmpty_foldl_select, List.isEmpty_eq_false_iff.mpr limited, Bool.and_false]

theorem meets_perm {qs qs' : List String} (perm : qs.Perm qs') (s : PathSet) (paths : List String) :
    (qs.foldl select s).meets paths = (qs'.foldl select s).meets paths := by
  have same (path : String) : (qs.foldl select s).contains path = (qs'.foldl select s).contains path := by
    rw [Bool.eq_iff_iff, contains_foldl_select, contains_foldl_select]
    simp only [perm.mem_iff]
  exact congrArg paths.any (funext same)

/-- What is traced within the first selection is traced within the second. No paths set no limits. -/
structure Within (s t : PathSet) : Prop where
  isEmpty : s.isEmpty = true → t.isEmpty = true
  allows : ∀ paths, s.isEmpty = true ∨ s.meets paths = true → t.isEmpty = true ∨ t.meets paths = true

theorem within_of_eq {s t : PathSet} (empty : t.isEmpty = s.isEmpty)
    (meets : ∀ paths, t.meets paths = s.meets paths) : Within s t := by
  constructor
  · intro none
    exact empty.trans none
  · intro paths allowed
    rwa [empty, meets]

theorem within_foldl_select {qs qs' : List String} (limited : qs ≠ [])
    (wider : qs' = [] ∨ ∀ q ∈ qs, ∃ q' ∈ qs', Path.same q' q = true) :
    Within (qs.foldl select empty) (qs'.foldl select empty) := by
  have some := isEmpty_of_selected limited empty
  constructor
  · intro none
    rw [some] at none
    cases none
  · intro paths allowed
    rcases wider with rfl | wider
    · exact .inl rfl
    · rw [some] at allowed
      have meets := allowed.resolve_left Bool.false_ne_true
      unfold PathSet.meets at meets ⊢
      obtain ⟨path, mem, selected⟩ := List.any_eq_true.mp meets
      refine .inr (List.any_eq_true.mpr ⟨path, mem, ?_⟩)
      rw [contains_foldl_select] at selected ⊢
      obtain ⟨q, given, same⟩ := selected.resolve_left Bool.false_ne_true
      obtain ⟨q', given', same'⟩ := wider q given
      rw [Path.same_iff] at same same'
      exact .inr ⟨q', given', (Path.same_iff q' path).mpr (same'.trans same)⟩

end PathSet

/-! ## Descriptors -/

/-- The argument at this place is a descriptor: the place is listed for the name of the call, or no places are
listed, the call works on a descriptor and the place is the first. -/
def Entry.HasDescriptorAt (e : Entry) (place : Fin 6) : Prop :=
  ∃ name, e.name = some name ∧
    ((∃ places, (name, places) ∈ Filter.descriptorPlaces ∧ place ∈ places) ∨
      (∀ places, (name, places) ∉ Filter.descriptorPlaces) ∧ e.classes.has .desc = true ∧ place.val = 0)

namespace Filter

theorem descriptorPlaces_unique : ∀ a ∈ descriptorPlaces, ∀ b ∈ descriptorPlaces, a.1 = b.1 → a = b := by
  decide

theorem mem_placesOf_iff (e : Entry) (place : Fin 6) : place ∈ placesOf e ↔ e.HasDescriptorAt place := by
  unfold placesOf Entry.HasDescriptorAt
  cases e.name with
  | none => simp
  | some name =>
    simp only [Option.some.injEq, exists_eq_left']
    cases listed : descriptorPlaces.find? (·.1 = name) with
    | none =>
      have unlisted (places : List (Fin 6)) : (name, places) ∉ descriptorPlaces := fun mem => by
        simpa using List.find?_eq_none.mp listed (name, places) mem
      cases e.classes.has .desc <;> simp [unlisted]
    | some row =>
      obtain ⟨called, places⟩ := row
      obtain rfl : called = name := by simpa using List.find?_some listed
      have known : (called, places) ∈ descriptorPlaces := List.mem_of_find?_eq_some listed
      constructor
      · intro mem
        exact .inl ⟨places, known, mem⟩
      · rintro (⟨others, also, mem⟩ | ⟨unlisted, -, -⟩)
        · obtain ⟨-, rfl⟩ := Prod.mk.inj (descriptorPlaces_unique _ also _ known rfl)
          exact mem
        · exact absurd known (unlisted places)

end Filter

end SyscallFilter
