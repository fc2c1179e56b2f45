import Mathlib.Logic.Relation
import SyscallFilter.Proofs.Filter
import SyscallFilter.Proofs.Text

/-!
# Spellings of a path

Doubled slashes, slashes at the end and dots behind a slash can be left out of a path. Two paths have the same
components exactly if they can be shortened to the same text in this way.
-/

namespace SyscallFilter.Path

/-! ## Shortening -/

/-- What can be left out of a path. The slash that is all of a path stays, and so does a dot in front. -/
inductive Shortens : String → String → Prop where
  | doubled (a b : String) : Shortens (a ++ "//" ++ b) (a ++ "/" ++ b)
  | trailing {a : String} (nonempty : a ≠ "") : Shortens (a ++ "/") a
  | dot (a b : String) : Shortens (a ++ "/./" ++ b) (a ++ "/" ++ b)
  | lastDot (a : String) : Shortens (a ++ "/.") (a ++ "/")

/-- The second path is what stays of the first. -/
def Shortened : String → String → Prop := Relation.ReflTransGen Shortens

/-- Both paths can be shortened to one text. -/
def Respelled : String → String → Prop := Relation.Join Shortened

/-! ## Pieces -/

theorem pieces_slash (a b : String) :
    Text.pieces '/' (a ++ "/" ++ b).toList = Text.pieces '/' a.toList ++ Text.pieces '/' b.toList := by
  have chars : (a ++ "/" ++ b).toList = a.toList ++ '/' :: b.toList := by simp
  rw [chars, Text.pieces_append]

/-- Pieces with a slash in front of each. -/
def slashed (pieces : List (List Char)) : String :=
  pieces.foldr (fun piece behind => "/" ++ String.ofList piece ++ behind) ""

theorem exists_pieces (cs : List Char) :
    ∃ first rest, Text.pieces '/' cs = first :: rest ∧ String.ofList cs = String.ofList first ++ slashed rest := by
  induction cs with
  | nil => exact ⟨[], [], rfl, rfl⟩
  | cons c cs ih =>
    obtain ⟨first, rest, split, joined⟩ := ih
    by_cases slash : c = '/'
    · refine ⟨[], first :: rest, by rw [Text.pieces, if_pos slash, split], ?_⟩
      have behind : slashed (first :: rest) = "/" ++ String.ofList cs := by
        rw [joined, ← String.append_assoc]
        rfl
      rw [behind, slash, ← String.toList_inj]
      simp
    · refine ⟨c :: first, rest, by rw [Text.pieces, if_neg slash, split], ?_⟩
      rw [String.ofList_cons, String.ofList_cons, joined, String.append_assoc]

/-! ## Components -/

theorem names_append (xs ys : List (List Char)) : names (xs ++ ys) = names xs ++ names ys := by
  unfold names
  rw [List.filter_append, List.map_append]

/-- What the first piece of a path stands for. -/
def lead (first : List Char) (alone : Bool) : List Component :=
  if first = [] then if alone then [] else [.root]
  else if first = ['.'] then [.here]
  else [.name first]

theorem components_eq {path : String} {first : List Char} {rest : List (List Char)}
    (split : Text.pieces '/' path.toList = first :: rest) : components path = lead first rest.isEmpty ++ names rest := by
  unfold components lead
  rw [split]
  by_cases empty : first = []
  · subst empty
    rfl
  · by_cases dot : first = ['.']
    · subst dot
      rfl
    · simp [empty, dot, names]

theorem components_slash (a b : String) :
    components (a ++ "/" ++ b) =
      (if a = "" then [.root] else components a) ++ names (Text.pieces '/' b.toList) := by
  obtain ⟨first, rest, split, joined⟩ := exists_pieces a.toList
  rw [String.ofList_toList] at joined
  have whole : Text.pieces '/' (a ++ "/" ++ b).toList = first :: (rest ++ Text.pieces '/' b.toList) := by
    rw [pieces_slash, split, List.cons_append]
  have more : (rest ++ Text.pieces '/' b.toList).isEmpty = false := by
    obtain ⟨first', rest', split', -⟩ := exists_pieces b.toList
    simp [split']
  have start : (if a = "" then [.root] else components a) = lead first false ++ names rest := by
    split
    next empty =>
      subst empty
      cases split
      rfl
    next nonempty =>
      rw [components_eq split]
      cases rest with
      | nil =>
        have named : first ≠ [] := by
          rintro rfl
          exact nonempty joined
        simp [lead, named]
      | cons => rfl
  rw [components_eq whole, more, names_append, ← List.append_assoc, start]

theorem components_trailing (a : String) : components (a ++ "/") = if a = "" then [.root] else components a := by
  have grouped : a ++ "/" = a ++ "/" ++ "" := String.append_empty.symm
  rw [grouped, components_slash]
  exact List.append_nil _

theorem components_of_shortens {a b : String} (shortens : Shortens a b) : components a = components b := by
  cases shortens with
  | doubled a b =>
    have grouped : a ++ "//" ++ b = a ++ "/" ++ ("/" ++ b) := by simp [← String.toList_inj]
    have skipped : Text.pieces '/' ("/" ++ b).toList = [] :: Text.pieces '/' b.toList := pieces_slash "" b
    rw [grouped, components_slash, components_slash, skipped]
    rfl
  | trailing nonempty => rw [components_trailing, if_neg nonempty]
  | dot a b =>
    have grouped : a ++ "/./" ++ b = a ++ "/" ++ ("." ++ "/" ++ b) := by simp [← String.toList_inj]
    rw [grouped, components_slash, components_slash, pieces_slash]
    rfl
  | lastDot a =>
    have grouped : a ++ "/." = a ++ "/" ++ "." := by simp [← String.toList_inj]
    rw [grouped, components_slash, components_trailing]
    exact List.append_nil _

theorem components_of_shortened {a b : String} (shortened : Shortened a b) : components a = components b := by
  induction shortened with
  | refl => rfl
  | tail _ step ih => exact ih.trans (components_of_shortens step)

/-! ## The shortest spelling -/

def Component.text : Component → String
  | .root => ""
  | .here => "."
  | .name text => String.ofList text

def behind (cs : List Component) : String := cs.foldr (fun c behind => "/" ++ c.text ++ behind) ""

/-- A start with names behind it. The root alone is a slash. -/
def extended (start : String) (cs : List Component) : String :=
  if start = "" ∧ cs = [] then "/" else start ++ behind cs

def spelling : List Component → String
  | [] => ""
  | c :: cs => extended c.text cs

theorem extended_cons (start : String) (c : Component) (cs : List Component) :
    extended start (c :: cs) = start ++ "/" ++ c.text ++ behind cs := by
  unfold extended
  rw [if_neg fun ⟨_, empty⟩ => List.cons_ne_nil c cs empty]
  simp only [behind, List.foldr_cons, String.append_assoc]

theorem slashed_cons (piece : List Char) (rest : List (List Char)) :
    slashed (piece :: rest) = "/" ++ String.ofList piece ++ slashed rest := rfl

section Skipped

variable (start : String) {piece : List Char} (skipped : piece = [] ∨ piece = ['.'])

include skipped

theorem shortened_skip {rest : List (List Char)} (more : rest ≠ []) :
    Shortened (start ++ slashed (piece :: rest)) (start ++ slashed rest) := by
  obtain ⟨next, later, rfl⟩ := List.exists_cons_of_ne_nil more
  have target : start ++ slashed (next :: later) = start ++ "/" ++ (String.ofList next ++ slashed later) := by
    rw [slashed_cons]
    simp only [String.append_assoc]
  rw [target]
  obtain rfl | rfl := skipped
  · have source : start ++ slashed ([] :: next :: later) = start ++ "//" ++ (String.ofList next ++ slashed later) := by
      simp [slashed_cons, ← String.toList_inj]
    rw [source]
    exact .single (.doubled _ _)
  · have source : start ++ slashed (['.'] :: next :: later) = start ++ "/./" ++ (String.ofList next ++ slashed later) := by
      simp [slashed_cons, ← String.toList_inj]
    rw [source]
    exact .single (.dot _ _)

theorem shortened_end : Shortened (start ++ slashed [piece]) (extended start []) := by
  have bare : Shortened (start ++ "/") (extended start []) := by
    unfold extended
    split
    next root =>
      rw [root.1]
      exact .refl
    next other =>
      have nonempty : start ≠ "" := fun empty => other ⟨empty, rfl⟩
      have whole : start ++ behind [] = start := String.append_empty
      rw [whole]
      exact .single (.trailing nonempty)
  obtain rfl | rfl := skipped
  · exact bare
  · exact .head (.lastDot start) bare

theorem names_skip (rest : List (List Char)) : names (piece :: rest) = names rest := by
  obtain rfl | rfl := skipped
  · rfl
  · rfl

end Skipped

theorem shortened_slashed (start : String) {rest : List (List Char)} (more : start ≠ "" ∨ rest ≠ []) :
    Shortened (start ++ slashed rest) (extended start (names rest)) := by
  induction rest generalizing start with
  | nil =>
    have nonempty : start ≠ "" := more.resolve_right fun none => none rfl
    unfold extended
    rw [if_neg fun root => nonempty root.1]
    exact .refl
  | cons piece rest ih =>
    by_cases skipped : piece = [] ∨ piece = ['.']
    · rw [names_skip skipped]
      by_cases last : rest = []
      · subst last
        exact shortened_end start skipped
      · exact (shortened_skip start skipped last).trans (ih start (.inr last))
    · obtain ⟨nonempty, other⟩ := not_or.mp skipped
      have named : names (piece :: rest) = .name piece :: names rest := by
        unfold names
        simp [nonempty, other]
      have longer : start ++ "/" ++ String.ofList piece ≠ "" := by simp
      have later := ih (start ++ "/" ++ String.ofList piece) (.inl longer)
      unfold extended at later
      rw [if_neg fun root => longer root.1] at later
      rw [named, extended_cons, slashed_cons, ← String.append_assoc, ← String.append_assoc]
      exact later

theorem shortened_spelling (path : String) : Shortened path (spelling (components path)) := by
  obtain ⟨first, rest, split, joined⟩ := exists_pieces path.toList
  rw [String.ofList_toList] at joined
  rw [components_eq split, joined]
  unfold lead
  by_cases empty : first = []
  · subst empty
    cases rest with
    | nil => exact .refl
    | cons piece rest => exact shortened_slashed "" (.inr (List.cons_ne_nil piece rest))
  · have named : String.ofList first ≠ "" := by simpa [← String.toList_inj] using empty
    rw [if_neg empty]
    by_cases dot : first = ['.']
    · subst dot
      exact shortened_slashed "." (.inl named)
    · rw [if_neg dot]
      exact shortened_slashed (String.ofList first) (.inl named)

theorem respelled_iff (a b : String) : Respelled a b ↔ components a = components b := by
  constructor
  · rintro ⟨c, left, right⟩
    exact (components_of_shortened left).trans (components_of_shortened right).symm
  · intro same
    refine ⟨spelling (components a), shortened_spelling a, ?_⟩
    rw [same]
    exact shortened_spelling b

theorem respelled_equivalence : Equivalence Respelled := by
  constructor
  · intro a
    exact (respelled_iff a a).mpr rfl
  · intro a b same
    exact (respelled_iff b a).mpr ((respelled_iff a b).mp same).symm
  · intro a b c left right
    exact (respelled_iff a c).mpr (((respelled_iff a b).mp left).trans ((respelled_iff b c).mp right))

end SyscallFilter.Path
