import SyscallFilter.CommandLine.Report
import SyscallFilter.Proofs.Condition
import SyscallFilter.Proofs.Text

/-!
# Conditions by their texts

A condition that is built by changes can be read back from its text, so that the text says what is evaluated. Only the
bars and ampersands part it; brackets and blanks are there for the eye.
-/

namespace SyscallFilter

/-! ## Literals -/

namespace Literal

/-- The literal that a text shows. -/
def ofText (text : String) : Literal := ⟨Numeral.value (text.toList.filter Char.isDigit), text.toList.contains '!'⟩

theorem toList_text (l : Literal) :
    l.text.toList = (if l.negated then ['!'] else []) ++ '$' :: (toString l.index).toList := by
  unfold text
  cases l.negated <;> simp

theorem mem_text {l : Literal} {c : Char} (mem : c ∈ l.text.toList) : c = '!' ∨ c = '$' ∨ c.isDigit = true := by
  rw [toList_text, List.mem_append, List.mem_cons] at mem
  rcases mem with mark | dollar | digit
  · split at mark
    · exact .inl (List.mem_singleton.mp mark)
    · cases mark
  · exact .inr (.inl dollar)
  · exact .inr (.inr ((Numeral.spells_toString l.index).2.1 c digit))

theorem text_ne_empty (l : Literal) : l.text ≠ "" := by
  rw [ne_eq, ← String.toList_inj, toList_text]
  exact List.append_ne_nil_of_right_ne_nil _ (List.cons_ne_nil _ _)

theorem ofText_text (l : Literal) : ofText l.text = l := by
  obtain ⟨-, digits, value⟩ := Numeral.spells_toString l.index
  have own : (toString l.index).toList.filter Char.isDigit = (toString l.index).toList := List.filter_eq_self.mpr digits
  have unmarked : '!' ∉ (toString l.index).toList := fun mem => absurd (digits '!' mem) (by decide)
  have index : Numeral.value (l.text.toList.filter Char.isDigit) = l.index := by
    rw [toList_text, List.filter_append, List.filter_cons_of_neg (by decide), own]
    cases l.negated <;> exact value
  have negated : l.text.toList.contains '!' = l.negated := by
    have apart : (toString l.index).toList.contains '!' = false := by simpa using unmarked
    rw [toList_text, List.contains_append, List.contains_cons, apart]
    cases l.negated <;> rfl
  unfold ofText
  rw [index, negated]

end Literal

namespace Condition

/-! ## Brackets and blanks -/

/-- A text without brackets and blanks. -/
def bare (text : String) : String := String.ofList (text.toList.filter (· ∉ ['(', ')', ' ']))

theorem bare_append (a b : String) : bare (a ++ b) = bare a ++ bare b := by
  unfold bare
  rw [String.toList_append, List.filter_append, String.ofList_append]

theorem bare_intercalate (sep : String) (texts : List String) :
    bare (sep.intercalate texts) = (bare sep).intercalate (texts.map bare) := by
  induction texts with
  | nil => rfl
  | cons text rest ih =>
    cases rest with
    | nil => rw [String.intercalate_singleton, List.map_singleton, String.intercalate_singleton]
    | cons next more =>
      simp only [String.intercalate_cons_cons, bare_append, ih, List.map_cons]

theorem bare_literal (l : Literal) : bare l.text = l.text := by
  have kept : ∀ c ∈ l.text.toList, decide (c ∉ ['(', ')', ' ']) = true := by
    intro c mem
    rw [decide_eq_true_eq]
    intro skipped
    simp only [List.mem_cons, List.not_mem_nil, or_false] at skipped
    rcases skipped with rfl | rfl | rfl <;> exact mt Literal.mem_text (by decide) mem
  unfold bare
  rw [List.filter_eq_self.mpr kept, String.ofList_toList]

/-- A conjunction as it is written without blanks. -/
def conjunction (clause : List Literal) : String := "&&".intercalate (clause.map Literal.text)

theorem bare_conjunction (clause : List Literal) (several : Bool) :
    bare (let body := " && ".intercalate (clause.map Literal.text)
      if several then "(" ++ body ++ ")" else body) = conjunction clause := by
  have body : bare (" && ".intercalate (clause.map Literal.text)) = conjunction clause := by
    rw [bare_intercalate, List.map_map]
    exact congrArg _ (List.map_congr_left fun l _ => bare_literal l)
  have brackets : bare "(" = "" ∧ bare ")" = "" := by decide
  cases several with
  | false => exact body
  | true =>
    simp only [if_true]
    rw [bare_append, bare_append, body, brackets.1, brackets.2, String.empty_append, String.append_empty]

theorem bare_text {c : Condition} (some : c.clauses ≠ []) :
    bare c.text = "||".intercalate (c.clauses.map conjunction) := by
  obtain ⟨clauses⟩ := c
  unfold text
  cases clauses with
  | nil => exact absurd rfl some
  | cons clause rest =>
    rw [bare_intercalate, List.map_map]
    exact congrArg _ (List.map_congr_left fun clause _ => bare_conjunction clause _)

/-! ## Reading -/

/-- The condition that a text shows. -/
def ofText (text : String) : Condition :=
  if text = "false" then empty
  else ⟨(Text.tokens '|' (bare text)).map fun clause => (Text.tokens '&' clause).map Literal.ofText⟩

theorem mem_conjunction {clause : List Literal} {c : Char} (mem : c ∈ (conjunction clause).toList) :
    c = '&' ∨ c = '!' ∨ c = '$' ∨ c.isDigit = true := by
  rcases Text.mem_intercalate mem with between | ⟨text, among, within⟩
  · exact .inl (by simpa using between)
  · obtain ⟨l, -, rfl⟩ := List.mem_map.mp among
    exact .inr (Literal.mem_text within)

theorem tokens_conjunction (clause : List Literal) :
    (Text.tokens '&' (conjunction clause)).map Literal.ofText = clause := by
  have whole : ∀ text ∈ clause.map Literal.text, text ≠ "" ∧ '&' ∉ text.toList := by
    rw [List.forall_mem_map]
    exact fun l _ => ⟨l.text_ne_empty, mt Literal.mem_text (by decide)⟩
  have split : Text.tokens '&' (conjunction clause) = clause.map Literal.text := Text.tokens_intercalate_pair whole
  simp [split, Function.comp_def, Literal.ofText_text]

theorem conjunction_ne_empty {clause : List Literal} (some : clause ≠ []) : conjunction clause ≠ "" := by
  intro empty
  have read := tokens_conjunction clause
  rw [empty] at read
  exact some read.symm

theorem tokens_bare_text {c : Condition} (some : c.clauses ≠ []) (full : [] ∉ c.clauses) :
    Text.tokens '|' (bare c.text) = c.clauses.map conjunction := by
  rw [bare_text some]
  refine Text.tokens_intercalate_pair ?_
  rw [List.forall_mem_map]
  intro clause known
  have nonempty : clause ≠ [] := fun empty => full (empty ▸ known)
  exact ⟨conjunction_ne_empty nonempty, mt mem_conjunction (by decide)⟩

theorem text_ne_false {c : Condition} (some : c.clauses ≠ []) : c.text ≠ "false" := by
  intro same
  have letter : 'f' ∈ (bare c.text).toList := by
    rw [same]
    decide
  rw [bare_text some] at letter
  rcases Text.mem_intercalate letter with between | ⟨text, among, within⟩
  · revert between
    decide
  · obtain ⟨clause, -, rfl⟩ := List.mem_map.mp among
    exact mt mem_conjunction (by decide) within

theorem ofText_text {c : Condition} (full : [] ∉ c.clauses) : ofText c.text = c := by
  by_cases none : c.clauses = []
  · obtain ⟨clauses⟩ := c
    subst none
    rfl
  · unfold ofText
    rw [if_neg (text_ne_false none), tokens_bare_text none full, List.map_map]
    simp [Function.comp_def, tokens_conjunction]

/-! ## Texts in a report -/

theorem text_eq_of_line {a : Action} {c c' : Condition}
    (same : Action.line { a with condition := c } = Action.line { a with condition := c' }) : c.text = c'.text := by
  unfold Action.line at same
  simpa [← String.toList_inj] using same

/-- A condition that is built by changes can be read back from its text, so two that look alike are one condition: the
same conjunctions in the same order, with the same literals. What a report shows of an action, as a line or as JSON,
tells the conditions apart too. -/
theorem text_ofChanges_eq_iff (changes changes' : List Change) :
    let c := ofChanges changes
    let c' := ofChanges changes'
    (c.text = c'.text ↔ c = c') ∧ ofText c.text = c ∧
      ∀ a : Action,
        (Action.line { a with condition := c } = Action.line { a with condition := c' } ↔ c = c') ∧
          (Action.json { a with condition := c } = Action.json { a with condition := c' } ↔ c = c') := by
  intro c c'
  have read : ofText c.text = c := ofText_text (nil_not_mem_ofChanges changes)
  have read' : ofText c'.text = c' := ofText_text (nil_not_mem_ofChanges changes')
  have determined (same : c.text = c'.text) : c = c' := by rw [← read, same, read']
  refine ⟨⟨determined, congrArg text⟩, read, fun a => ⟨⟨fun same => ?_, fun same => by rw [same]⟩, ?_⟩⟩
  · exact determined (text_eq_of_line same)
  · refine ⟨fun same => determined ?_, fun same => by rw [same]⟩
    unfold Action.json at same
    simpa using same

-- Brackets may be left out of what is read. They are back in what is written.
example : (ofText "$0 && !$12 || $3").text = "($0 && !$12) || $3" := by decide +kernel

end Condition

end SyscallFilter
