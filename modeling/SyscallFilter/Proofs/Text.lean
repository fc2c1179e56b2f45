import SyscallFilter.Text

/-! # Splitting, leading marks and numerals, in terms of the library's lists -/

namespace SyscallFilter.Text

/-! ## Marks and pieces -/

theorem leadingChars_eq (c : Char) (cs : List Char) :
    leadingChars c cs = ((cs.takeWhile (· = c)).length, cs.dropWhile (· = c)) := by
  induction cs with
  | nil => rfl
  | cons d ds ih =>
    rw [leadingChars, ih]
    by_cases h : d = c
    · have yes : decide (d = c) = true := decide_eq_true h
      rw [if_pos h, List.takeWhile_cons, List.dropWhile_cons, yes]
      rfl
    · have no : decide (d = c) = false := decide_eq_false h
      rw [if_neg h, List.takeWhile_cons, List.dropWhile_cons, no]
      rfl

theorem leading_eq (c : Char) (s : String) :
    leading c s = ((s.toList.takeWhile (· = c)).length, String.ofList (s.toList.dropWhile (· = c))) := by
  unfold leading
  rw [leadingChars_eq]

theorem length_takeWhile_ne_zero_iff (c : Char) (cs : List Char) :
    (cs.takeWhile (· = c)).length ≠ 0 ↔ cs.head? = some c := by
  cases cs with
  | nil => simp
  | cons d ds => by_cases h : d = c <;> simp [h]

theorem ofList_dropWhile_of_head {c : Char} {s : String} (other : s.toList.head? ≠ some c) :
    String.ofList (s.toList.dropWhile (· = c)) = s := by
  cases chars : s.toList with
  | nil => simp [← String.toList_inj, chars]
  | cons d ds => simp [← String.toList_inj, chars] at other ⊢; simp [other]

theorem pieces_eq_splitOn (sep : Char) (cs : List Char) : pieces sep cs = cs.splitOn sep := by
  induction cs with
  | nil => rfl
  | cons c cs ih =>
    rw [pieces, ih, List.splitOn_cons_eq_if_modifyHead]
    by_cases h : c = sep
    · rw [if_pos h, if_pos (beq_iff_eq.mpr h)]
    · rw [if_neg h, if_neg (by simpa using h)]
      cases hs : cs.splitOn sep with
      | nil => exact absurd hs (List.splitOn_ne_nil sep cs)
      | cons piece rest => rfl

theorem tokens_eq_splitOn (sep : Char) (s : String) :
    tokens sep s = ((s.toList.splitOn sep).filter (· ≠ [])).map String.ofList := by
  unfold tokens
  rw [pieces_eq_splitOn]

theorem exists_tokens_of_head {sep c : Char} {s : String} (first : s.toList.head? = some c) (other : c ≠ sep) :
    ∃ token rest, tokens sep s = token :: rest ∧ token.toList.head? = some c := by
  obtain ⟨cs, chars⟩ : ∃ cs, s.toList = c :: cs := List.head?_eq_some_iff.mp first
  rw [tokens_eq_splitOn, chars, List.splitOn_cons_eq_if_modifyHead, if_neg (by simpa using other)]
  cases split : cs.splitOn sep with
  | nil => exact absurd split (List.splitOn_ne_nil sep cs)
  | cons piece rest => exact ⟨String.ofList (c :: piece), (rest.filter (· ≠ [])).map String.ofList, by simp, by simp⟩

/-! ## Tokens of joined texts -/

theorem pieces_append (sep : Char) (as bs : List Char) :
    pieces sep (as ++ sep :: bs) = pieces sep as ++ pieces sep bs := by
  rw [pieces_eq_splitOn, pieces_eq_splitOn, pieces_eq_splitOn, List.splitOn,
    List.splitOnP_append_cons _ _ (by simp)]
  rfl

theorem tokens_append (sep : Char) (a b : String) :
    tokens sep (a ++ String.singleton sep ++ b) = tokens sep a ++ tokens sep b := by
  have chars : (a ++ String.singleton sep ++ b).toList = a.toList ++ sep :: b.toList := by simp
  unfold tokens
  rw [chars, pieces_append, List.filter_append, List.map_append]

theorem tokens_of_whole {sep : Char} {text : String} (nonempty : text ≠ "") (plain : sep ∉ text.toList) :
    tokens sep text = [text] := by
  rw [tokens_eq_splitOn, List.splitOn_eq_singleton plain]
  simp [nonempty]

theorem tokens_empty (sep : Char) : tokens sep "" = [] := rfl

theorem tokens_intercalate_pair {sep : Char} {texts : List String}
    (whole : ∀ text ∈ texts, text ≠ "" ∧ sep ∉ text.toList) :
    tokens sep ((String.ofList [sep, sep]).intercalate texts) = texts := by
  induction texts with
  | nil => exact tokens_empty sep
  | cons text rest ih =>
    obtain ⟨⟨nonempty, plain⟩, later⟩ := List.forall_mem_cons.mp whole
    have first := tokens_of_whole nonempty plain
    cases rest with
    | nil => rwa [String.intercalate_singleton]
    | cons next more =>
      have twice (rest : String) : text ++ String.ofList [sep, sep] ++ rest =
          text ++ String.singleton sep ++ ("" ++ String.singleton sep ++ rest) := by
        simp [← String.toList_inj]
      rw [String.intercalate_cons_cons, twice, tokens_append, tokens_append, first, tokens_empty, ih later]
      rfl

theorem mem_intercalate {sep : String} {texts : List String} {c : Char} (mem : c ∈ (sep.intercalate texts).toList) :
    c ∈ sep.toList ∨ ∃ text ∈ texts, c ∈ text.toList := by
  induction texts with
  | nil => simp at mem
  | cons text rest ih =>
    cases rest with
    | nil => simpa using .inr mem
    | cons next more =>
      rw [String.intercalate_cons_cons] at mem
      simp only [String.toList_append, List.mem_append] at mem
      rcases mem with (here | between) | later
      · exact .inr ⟨text, List.mem_cons_self, here⟩
      · exact .inl between
      · exact (ih later).imp_right fun ⟨t, among, within⟩ => ⟨t, List.mem_cons_of_mem text among, within⟩

/-! ## Cuts -/

theorem after?_eq_some_iff (start s rest : String) :
    after? start s = some rest ↔ s.toList = start.toList ++ rest.toList := by
  unfold after?
  split
  next h =>
    obtain ⟨more, split⟩ := List.isPrefixOf_iff_prefix.mp h
    rw [← split, ← String.length_toList, List.drop_left, Option.some.injEq, List.append_cancel_left_eq]
    constructor
    · rintro rfl
      exact String.toList_ofList.symm
    · rintro rfl
      exact String.ofList_toList
  next h =>
    refine ⟨nofun, fun same => absurd ?_ h⟩
    exact List.isPrefixOf_iff_prefix.mpr ⟨rest.toList, same.symm⟩

theorem cutChars_eq_some_iff (sep : Char) (cs a b : List Char) :
    cutChars sep cs = some (a, b) ↔ cs = a ++ sep :: b ∧ sep ∉ a := by
  induction cs generalizing a b with
  | nil => simp [cutChars]
  | cons c cs ih =>
    unfold cutChars
    split
    next here =>
      subst here
      constructor
      · rintro ⟨⟩
        exact ⟨rfl, List.not_mem_nil⟩
      · rintro ⟨split, absent⟩
        cases a with
        | nil => rw [(List.cons.inj split).2]
        | cons d ds =>
          obtain ⟨rfl, -⟩ := List.cons.inj split
          exact absurd List.mem_cons_self absent
    next elsewhere =>
      simp only [Option.map_eq_some_iff, Prod.exists, Prod.mk.injEq, ih]
      constructor
      · rintro ⟨a, b, ⟨rfl, absent⟩, rfl, rfl⟩
        exact ⟨rfl, by simp [absent, Ne.symm elsewhere]⟩
      · rintro ⟨split, absent⟩
        cases a with
        | nil => exact absurd (List.cons.inj split).1 elsewhere
        | cons d ds =>
          obtain ⟨rfl, rfl⟩ := List.cons.inj split
          exact ⟨ds, b, ⟨rfl, fun mem => absent (List.mem_cons_of_mem c mem)⟩, rfl, rfl⟩

theorem cut_eq_some_iff (sep : Char) (s a b : String) :
    cut sep s = some (a, b) ↔ s.toList = a.toList ++ sep :: b.toList ∧ sep ∉ a.toList := by
  rw [← cutChars_eq_some_iff]
  unfold cut
  simp only [Option.map_eq_some_iff, Prod.exists, Prod.mk.injEq]
  constructor
  · rintro ⟨_, _, found, rfl, rfl⟩
    simpa using found
  · intro found
    exact ⟨a.toList, b.toList, found, String.ofList_toList, String.ofList_toList⟩

theorem cut_eq_none_iff (sep : Char) (s : String) : cut sep s = none ↔ sep ∉ s.toList := by
  have found : cut sep s ≠ none ↔ sep ∈ s.toList := by
    simp only [Option.ne_none_iff_exists', Prod.exists, cut_eq_some_iff]
    constructor
    · rintro ⟨a, b, split, -⟩
      simp [split]
    · intro mem
      obtain ⟨a, b, split, absent⟩ := List.eq_append_cons_of_mem mem
      exact ⟨String.ofList a, String.ofList b, by simpa using split, by simpa using absent⟩
  rw [← found, Decidable.not_not]

end SyscallFilter.Text

/-! ## What numerals spell -/

namespace SyscallFilter.Numeral

/-- The text is made of ASCII digits, and they have this value. Leading zeros are allowed. -/
def Spells (text : String) (n : Nat) : Prop :=
  text.toList ≠ [] ∧ (∀ c ∈ text.toList, c.isDigit) ∧ Nat.ofDigitChars 10 text.toList 0 = n

theorem parse?_eq_some_iff (text : String) (n : Nat) : parse? text = some n ↔ Spells text n := by
  unfold parse? Spells
  simp only [Bool.and_eq_true, decide_eq_true_eq, List.all_eq_true]
  split
  next digits =>
    rw [Option.some.injEq]
    exact ⟨fun value => ⟨digits.1, digits.2, value⟩, fun spells => spells.2.2⟩
  next other =>
    exact ⟨nofun, fun spells => absurd ⟨spells.1, spells.2.1⟩ other⟩

theorem upTo_eq_some_iff (max : Nat) (text : String) (n : Nat) :
    upTo max text = some n ↔ Spells text n ∧ n ≤ max := by
  unfold upTo
  rw [Option.filter_eq_some_iff, parse?_eq_some_iff, decide_eq_true_iff]

theorem number?_eq_some_iff (text : String) (n : Nat) :
    number? text = some n ↔ Spells text n ∧ n ≤ 2147483647 :=
  upTo_eq_some_iff maxNumber text n

theorem startsWithDigit_of_spells {text : String} {n : Nat} (spells : Spells text n) :
    startsWithDigit text = true := by
  obtain ⟨nonempty, digits, -⟩ := spells
  unfold startsWithDigit
  cases h : text.toList with
  | nil => exact absurd h nonempty
  | cons c cs => exact digits c (h ▸ List.mem_cons_self)

theorem spells_toString (n : Nat) : Spells (toString n) n := by
  have digits : (toString n).toList = Nat.toDigits 10 n := Nat.toList_repr
  unfold Spells
  rw [digits]
  refine ⟨Nat.toDigits_ne_nil, ?_, Nat.ofDigitChars_ten_toDigits⟩
  intro c mem
  exact Nat.isDigit_of_mem_toDigits (by decide) (by decide) mem

end SyscallFilter.Numeral
