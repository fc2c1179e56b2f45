import Mathlib.Data.List.Forall2
import Mathlib.Data.List.Induction
import SyscallFilter.Filter
import SyscallFilter.Proofs.PathSpelling

/-!
# Selections of paths

After any selections a set has one spelling of each path, the first one that was selected, in the order of these first
selections. What is selected does not depend on the spelling.
-/

open SyscallFilter.Path

namespace SyscallFilter.PathSet

/-! ## What is selected -/

theorem contains_selected_iff (qs : List String) (path : String) :
    (qs.foldl select empty).contains path = true ↔ ∃ q ∈ qs, Respelled q path := by
  rw [contains_foldl_select]
  simp only [respelled_iff, same_iff]
  exact or_iff_right Bool.false_ne_true

theorem meets_iff (s : PathSet) (paths : List String) :
    s.meets paths = true ↔ ∃ path ∈ paths, s.contains path = true := by
  unfold meets
  rw [List.any_eq_true]

theorem contains_selected_iff_mem (qs : List String) (path : String) :
    (qs.foldl select empty).contains path = true ↔ components path ∈ qs.map components := by
  rw [contains_selected_iff, List.mem_map]
  simp only [respelled_iff]

theorem meets_selected_iff_mem (qs paths : List String) :
    (qs.foldl select empty).meets paths = true ↔ ∃ cs ∈ paths.map components, cs ∈ qs.map components := by
  simp only [meets_iff, contains_selected_iff_mem]
  constructor
  · rintro ⟨path, mem, selected⟩
    exact ⟨components path, List.mem_map_of_mem mem, selected⟩
  · rintro ⟨_, given, selected⟩
    obtain ⟨path, mem, rfl⟩ := List.mem_map.mp given
    exact ⟨path, mem, selected⟩

theorem map_components_of_respelled {qs qs' : List String} (respelled : List.Forall₂ Respelled qs qs') :
    qs.map components = qs'.map components := by
  induction respelled with
  | nil => rfl
  | cons same _ ih => rw [List.map_cons, List.map_cons, (respelled_iff _ _).mp same, ih]

/-! ## What is kept -/

/-- The path is selected at this place, and in no spelling before. -/
structure FirstAt (qs : List String) (place : Nat) (q : String) : Prop where
  here : qs[place]? = some q
  fresh : ∀ earlier ∈ qs.take place, ¬ Respelled earlier q

section Selections

variable {qs : List String} {place : Nat} {p q : String}

theorem FirstAt.lt (first : FirstAt qs place q) : place < qs.length :=
  (List.getElem?_eq_some_iff.mp first.here).1

theorem FirstAt.mem_take (first : FirstAt qs place q) {later : Nat} (before : place < later) : q ∈ qs.take later := by
  refine List.mem_of_getElem? (i := place) ?_
  rw [List.getElem?_take_of_lt before]
  exact first.here

theorem firstAt_concat :
    FirstAt (qs ++ [q]) place p ↔
      FirstAt qs place p ∨ place = qs.length ∧ p = q ∧ ∀ earlier ∈ qs, ¬ Respelled earlier q := by
  constructor
  · intro first
    rcases Nat.lt_or_ge place qs.length with inside | outside
    · obtain ⟨here, fresh⟩ := first
      rw [List.getElem?_append_left inside] at here
      rw [List.take_append_of_le_length (Nat.le_of_lt inside)] at fresh
      exact .inl ⟨here, fresh⟩
    · have last : place = qs.length := by
        have inside := first.lt
        rw [List.length_append, List.length_singleton] at inside
        omega
      obtain ⟨here, fresh⟩ := first
      subst last
      rw [List.getElem?_concat_length] at here
      obtain rfl := Option.some.inj here
      rw [List.take_left] at fresh
      exact .inr ⟨rfl, rfl, fresh⟩
  · rintro (first | ⟨rfl, rfl, fresh⟩)
    · have inside := first.lt
      refine ⟨?_, ?_⟩
      · rw [List.getElem?_append_left inside]
        exact first.here
      · rw [List.take_append_of_le_length (Nat.le_of_lt inside)]
        exact first.fresh
    · refine ⟨List.getElem?_concat_length, ?_⟩
      rwa [List.take_left]

/-- The paths of a set are the first spellings of what was selected, in the order of their selection. -/
structure Keeps (s : PathSet) (qs : List String) : Prop where
  mem_iff : ∀ q, q ∈ s.paths ↔ ∃ place, FirstAt qs place q
  ordered : s.paths.Pairwise fun a b => ∃ i j, i < j ∧ FirstAt qs i a ∧ FirstAt qs j b

theorem Keeps.apart {s : PathSet} (keeps : s.Keeps qs) : s.paths.Pairwise fun a b => ¬ Respelled a b := by
  refine keeps.ordered.imp ?_
  rintro a b ⟨i, j, before, first, second⟩
  exact second.fresh a (first.mem_take before)

theorem keeps_concat (keeps : (qs.foldl select empty).Keeps qs) (q : String) :
    ((qs ++ [q]).foldl select empty).Keeps (qs ++ [q]) := by
  have selected := contains_selected_iff qs q
  rw [List.foldl_append, List.foldl_cons, List.foldl_nil]
  generalize qs.foldl select empty = s at keeps selected
  have lift {i : Nat} {a : String} (first : FirstAt qs i a) : FirstAt (qs ++ [q]) i a := firstAt_concat.mpr (.inl first)
  unfold select
  split
  next known =>
    -- A spelling of the path was selected before, so there is no first one at the new place.
    obtain ⟨earlier, mem, respelled⟩ := selected.mp known
    constructor
    · intro p
      rw [keeps.mem_iff]
      refine exists_congr fun place => ⟨lift, fun first => ?_⟩
      exact (firstAt_concat.mp first).resolve_right fun ⟨_, _, fresh⟩ => fresh earlier mem respelled
    · refine keeps.ordered.imp ?_
      rintro a b ⟨i, j, before, first, second⟩
      exact ⟨i, j, before, lift first, lift second⟩
  next unknown =>
    have fresh : ∀ earlier ∈ qs, ¬ Respelled earlier q :=
      fun earlier mem respelled => unknown (selected.mpr ⟨earlier, mem, respelled⟩)
    have last : FirstAt (qs ++ [q]) qs.length q := firstAt_concat.mpr (.inr ⟨rfl, rfl, fresh⟩)
    constructor
    · intro p
      simp only [List.mem_append, List.mem_singleton, keeps.mem_iff, firstAt_concat, exists_or, exists_eq_left]
      exact or_congr_right (and_iff_left fresh).symm
    · rw [List.pairwise_append]
      refine ⟨keeps.ordered.imp ?_, List.pairwise_singleton _ _, ?_⟩
      · rintro a b ⟨i, j, before, first, second⟩
        exact ⟨i, j, before, lift first, lift second⟩
      · intro a mem b mem'
        obtain rfl := List.mem_singleton.mp mem'
        obtain ⟨i, first⟩ := (keeps.mem_iff a).mp mem
        exact ⟨i, qs.length, first.lt, lift first, last⟩

end Selections

theorem keeps_foldl_select (qs : List String) : (qs.foldl select empty).Keeps qs := by
  induction qs using List.reverseRecOn with
  | nil =>
    refine ⟨fun q => ⟨nofun, ?_⟩, .nil⟩
    rintro ⟨place, first⟩
    exact absurd first.lt (Nat.not_lt_zero place)
  | append_singleton qs q ih => exact keeps_concat ih q

/-! ## Sets of paths -/

/-- A set has the first spelling of each path that was selected, in the order of selection, and no two spellings of one
path. It has a path exactly if a spelling of it was selected, and a call matches exactly if one of its paths is in the
set. Other spellings, of what was selected or of the paths of a call, make no difference. -/
theorem foldl_select_spellings (qs : List String) (p : Personalities) :
    let set := qs.foldl select empty
    Equivalence Respelled ∧ (∀ a b, Path.same a b = true ↔ Respelled a b) ∧
    (set.paths.Pairwise fun a b => ¬ Respelled a b) ∧
    (∀ q, q ∈ set.paths ↔ ∃ place, FirstAt qs place q) ∧
    (set.paths.Pairwise fun a b => ∃ i j, i < j ∧ FirstAt qs i a ∧ FirstAt qs j b) ∧
    (∀ path, set.contains path = true ↔ ∃ q ∈ qs, Respelled q path) ∧
    (∀ c : Call, (Filter.path set).holds c p = true ↔ ∃ path ∈ c.paths, set.contains path = true) ∧
    ∀ qs', List.Forall₂ Respelled qs qs' →
      let set' := qs'.foldl select empty
      (∀ path path', Respelled path path' → set.contains path = set'.contains path') ∧
      ∀ c c' : Call, List.Forall₂ Respelled c.paths c'.paths →
        (Filter.path set).holds c p = (Filter.path set').holds c' p := by
  intro set
  have keeps := keeps_foldl_select qs
  refine ⟨respelled_equivalence, fun a b => (same_iff a b).trans (respelled_iff a b).symm, keeps.apart, keeps.mem_iff, keeps.ordered,
    contains_selected_iff qs, fun c => set.meets_iff c.paths, fun qs' respelled => ⟨?_, ?_⟩⟩
  · intro path path' same
    rw [Bool.eq_iff_iff, contains_selected_iff_mem, contains_selected_iff_mem, map_components_of_respelled respelled,
      (respelled_iff path path').mp same]
  · intro c c' same
    unfold Filter.holds
    rw [Bool.eq_iff_iff, meets_selected_iff_mem, meets_selected_iff_mem, map_components_of_respelled respelled,
      map_components_of_respelled same]

theorem foldl_select_spellings_mixed :
    let p : Personalities := ⟨[⟨"demo", []⟩], List.cons_ne_nil _ _⟩
    let qs := ["/a//b/", "./c", "/a/./b", "c"]
    let qs' := ["/a/b", "./c/.", "//a/b", "c//"]
    let c := { Call.new 0 0 with paths := ["/x", "/a/b/."] }
    let c' := { Call.new 0 0 with paths := ["//x/", "/a/b"] }
    List.Forall₂ Respelled qs qs' ∧ Respelled "c/." "c" ∧ List.Forall₂ Respelled c.paths c'.paths ∧
      (qs.foldl select empty).paths = ["/a//b/", "./c", "c"] ∧
      (qs.foldl select empty).contains "c/." = (qs'.foldl select empty).contains "c" ∧
      (Filter.path (qs.foldl select empty)).holds c p = (Filter.path (qs'.foldl select empty)).holds c' p := by
  intro p qs qs' c c'
  have spelled {a b : String} (same : components a = components b) : Respelled a b := (respelled_iff a b).mpr same
  have selected : List.Forall₂ Respelled qs qs' :=
    .cons (spelled (by decide +kernel)) (.cons (spelled (by decide +kernel))
      (.cons (spelled (by decide +kernel)) (.cons (spelled (by decide +kernel)) .nil)))
  have asked : List.Forall₂ Respelled c.paths c'.paths :=
    .cons (spelled (by decide +kernel)) (.cons (spelled (by decide +kernel)) .nil)
  have one : Respelled "c/." "c" := spelled (by decide +kernel)
  obtain ⟨-, -, -, -, -, -, -, respelled⟩ := foldl_select_spellings qs p
  obtain ⟨contains, holds⟩ := respelled qs' selected
  exact ⟨selected, one, asked, by decide +kernel, contains _ _ one, holds c c' asked⟩

end SyscallFilter.PathSet
