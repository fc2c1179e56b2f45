import SyscallFilter.Clause
import SyscallFilter.Proofs.Text

/-!
# Clauses as text

A clause is split at the first equals sign and then at the first colon, so that its parts with these marks between them
are the text again. No other parts are, if the name has no equals sign in it and the main part has no colon.
-/

namespace SyscallFilter.Clause

/-! ## Splitting -/

theorem split_of_bare {text : String} (bare : '=' ∉ text.toList) : split text = ⟨"trace", text, none⟩ := by
  unfold split
  rw [(Text.cut_eq_none_iff '=' text).mpr bare]

theorem split_of_named {name : String} (unsigned : '=' ∉ name.toList) (rest : String) :
    split (name ++ "=" ++ rest) =
      match Text.cut ':' rest with
      | none => ⟨name, rest, none⟩
      | some (main, args) => ⟨name, main, some args⟩ := by
  have cut : Text.cut '=' (name ++ "=" ++ rest) = some (name, rest) := by
    rw [Text.cut_eq_some_iff]
    exact ⟨by simp, unsigned⟩
  cases colon : Text.cut ':' rest <;> simp only [split, cut, colon]

theorem exists_named {text : String} (signed : '=' ∈ text.toList) :
    ∃ name rest : String, text = name ++ "=" ++ rest ∧ '=' ∉ name.toList := by
  obtain ⟨name, rest, chars, unsigned⟩ := List.eq_append_cons_of_mem signed
  refine ⟨String.ofList name, String.ofList rest, ?_, by simpa using unsigned⟩
  simp [← String.toList_inj, chars]

/-! ## Joining -/

/-- The parts with the marks between them. -/
def text : Clause → String
  | ⟨name, main, none⟩ => name ++ "=" ++ main
  | ⟨name, main, some args⟩ => name ++ "=" ++ main ++ ":" ++ args

theorem text_some (name main args : String) :
    text ⟨name, main, some args⟩ = name ++ "=" ++ (main ++ ":" ++ args) := by
  simp only [text, String.append_assoc]

/-- Neither the name nor the main part has the mark in it that ends it. -/
structure Separable (c : Clause) : Prop where
  name : '=' ∉ c.name.toList
  main : ':' ∉ c.main.toList

variable {c : Clause}

theorem split_text (separable : c.Separable) : split c.text = c := by
  obtain ⟨name, main, args⟩ := c
  obtain ⟨unsigned, whole⟩ := separable
  cases args with
  | none =>
    have cut : Text.cut ':' main = none := (Text.cut_eq_none_iff ':' main).mpr whole
    rw [text, split_of_named unsigned, cut]
  | some args =>
    have cut : Text.cut ':' (main ++ ":" ++ args) = some (main, args) := by
      rw [Text.cut_eq_some_iff]
      exact ⟨by simp, whole⟩
    rw [text_some, split_of_named unsigned, cut]

theorem exists_separable {text : String} (signed : '=' ∈ text.toList) : ∃ c : Clause, c.Separable ∧ c.text = text := by
  obtain ⟨name, rest, rfl, unsigned⟩ := exists_named signed
  cases colon : Text.cut ':' rest with
  | none => exact ⟨⟨name, rest, none⟩, ⟨unsigned, (Text.cut_eq_none_iff ':' rest).mp colon⟩, rfl⟩
  | some parts =>
    obtain ⟨main, args⟩ := parts
    obtain ⟨chars, whole⟩ := (Text.cut_eq_some_iff ':' rest main args).mp colon
    have joined : rest = main ++ ":" ++ args := by simp [← String.toList_inj, chars]
    exact ⟨⟨name, main, some args⟩, ⟨unsigned, whole⟩, by rw [text_some, joined]⟩

/-- Parts that are joined are split again. A text with an equals sign in it is joined again from the parts it is split
into, and from no other such parts. -/
theorem split_lossless :
    (∀ name main args : String, '=' ∉ name.toList → ':' ∉ main.toList →
      split (name ++ "=" ++ main ++ ":" ++ args) = ⟨name, main, some args⟩ ∧
      split (name ++ "=" ++ main) = ⟨name, main, none⟩) ∧
    ∀ text : String, '=' ∈ text.toList →
      (split text).text = text ∧ '=' ∉ (split text).name.toList ∧ ':' ∉ (split text).main.toList ∧
      ∀ c : Clause, c.Separable → c.text = text → c = split text := by
  refine ⟨fun name main args unsigned whole => ⟨?_, ?_⟩, fun text signed => ?_⟩
  · exact split_text (c := ⟨name, main, some args⟩) ⟨unsigned, whole⟩
  · exact split_text (c := ⟨name, main, none⟩) ⟨unsigned, whole⟩
  · obtain ⟨c, separable, rfl⟩ := exists_separable signed
    rw [split_text separable]
    refine ⟨rfl, separable.name, separable.main, fun c' separable' same => ?_⟩
    rw [← split_text separable', same, split_text separable]

theorem split_lossless_nested :
    let c : Clause := ⟨"x:y", "=", some ""⟩
    '=' ∉ "".toList ∧ ':' ∉ "a=b".toList ∧ split ("" ++ "=" ++ "a=b" ++ ":" ++ "c:d=e") = ⟨"", "a=b", some "c:d=e"⟩ ∧
      '=' ∈ "x:y==:".toList ∧ (split "x:y==:").text = "x:y==:" ∧
      c.Separable ∧ c.text = "x:y==:" ∧ c = split "x:y==:" := by
  -- Empty parts, an equals sign in the main part, and both marks in the arguments; and a colon in the name.
  intro c
  obtain ⟨joined, parts⟩ := split_lossless
  have unsigned : '=' ∉ "".toList := by decide
  have whole : ':' ∉ "a=b".toList := by decide
  have signed : '=' ∈ "x:y==:".toList := by decide
  have separable : c.Separable := ⟨by decide, by decide⟩
  have same : c.text = "x:y==:" := by decide
  obtain ⟨back, -, -, only⟩ := parts "x:y==:" signed
  exact ⟨unsigned, whole, (joined "" "a=b" "c:d=e" unsigned whole).1, signed, back, separable, same,
    only c separable same⟩

end SyscallFilter.Clause
