import SyscallFilter.Spec
import SyscallFilter.Proofs.Table
import SyscallFilter.Proofs.Text

/-!
# What one token of a list of calls stands for

`Denotes` says it without the order in which the ways of reading a token are tried. The selector that is read
finds just these numbers.
-/

namespace SyscallFilter

/-! ## Words for classes -/

/-- The word is one for the class, and is understood in this mode. -/
def SyscallClass.Word (mode : Mode) (word : String) (c : SyscallClass) : Prop :=
  (word, c) ∈ SyscallClass.words ∧ (mode = .clause ∨ word.toList.head? = some '%')

theorem SyscallClass.words_unique :
    ∀ a ∈ SyscallClass.words, ∀ b ∈ SyscallClass.words, a.1 = b.1 → a = b := by
  decide

theorem SyscallClass.byWord?_eq_some_iff (mode : Mode) (word : String) (c : SyscallClass) :
    SyscallClass.byWord? word (mode = .clause) = some c ↔ SyscallClass.Word mode word c := by
  have found : (SyscallClass.words.find? (·.1 = word)).map (·.2) = some c ↔ (word, c) ∈ SyscallClass.words := by
    constructor
    · intro h
      obtain ⟨⟨w, c'⟩, first, rfl⟩ := Option.map_eq_some_iff.mp h
      have called : w = word := by simpa using List.find?_some first
      exact called ▸ List.mem_of_find?_eq_some first
    · intro h
      cases first : SyscallClass.words.find? (·.1 = word) with
      | none => simpa using List.find?_eq_none.mp first (word, c) h
      | some a =>
        have called : a.1 = word := by simpa using List.find?_some first
        rw [SyscallClass.words_unique a (List.mem_of_find?_eq_some first) (word, c) h called]
        rfl
  unfold SyscallClass.byWord? SyscallClass.Word
  rw [and_comm, ← found]
  simp only [Bool.or_eq_true, decide_eq_true_eq]
  split
  next understood => rw [and_iff_right understood]
  next unknown => simp [unknown]

namespace Selector

/-! ## The four ways to read a token -/

/-- A token that is neither like a numeral nor marked as a pattern. -/
def Bare (token : String) : Prop :=
  ¬ Numeral.startsWithDigit token = true ∧ ∀ text : String, token.toList ≠ '/' :: text.toList

/-- The number `n` of a table is one that the token stands for. -/
inductive Denotes (mode : Mode) (t : Table) (token : String) (n : Nat) : Prop
  | number (nonempty : token.toList ≠ []) (digits : ∀ c ∈ token.toList, c.isDigit)
      (value : Nat.ofDigitChars 10 token.toList 0 = n) (small : n ≤ 2147483647) (inTable : n < t.entries.length)
  | pattern {text : String} {p : Pattern} {name : String} {classes : Flags SyscallClass}
      (slash : token.toList = '/' :: text.toList) (valid : Pattern.parse? text = some p)
      (allocated : t.entries[n]? = some ⟨some name, classes⟩) (found : p.isMatch name = true)
  | classOf {c : SyscallClass} {name : String} {classes : Flags SyscallClass}
      (word : SyscallClass.Word mode token c) (allocated : t.entries[n]? = some ⟨some name, classes⟩)
      (has : classes.has c = true)
  | name {classes : Flags SyscallClass} (bare : Bare token) (noClass : ∀ c, ¬ SyscallClass.Word mode token c)
      (allocated : t.entries[n]? = some ⟨some token, classes⟩)

/-- The token is marked as a pattern, and `text` is none. -/
def BadPattern (token text : String) : Prop :=
  token.toList = '/' :: text.toList ∧ Pattern.parse? text = none

theorem startsWithDigit_of_slash {token text : String} (slash : token.toList = '/' :: text.toList) :
    ¬ Numeral.startsWithDigit token = true := by
  unfold Numeral.startsWithDigit
  rw [slash]
  exact Bool.false_ne_true

theorem bare_of_word {mode : Mode} {word : String} {c : SyscallClass} (h : SyscallClass.Word mode word c) :
    Bare word := by
  have all : ∀ a ∈ SyscallClass.words,
      ¬ Numeral.startsWithDigit a.1 = true ∧ a.1.toList.head? ≠ some '/' := by decide
  obtain ⟨noDigit, noSlash⟩ := all _ h.1
  refine ⟨noDigit, fun text slash => noSlash ?_⟩
  rw [slash]
  rfl

/-- How a token is read: one case for each way, and one for a bad pattern. -/
theorem parse_cases (mode : Mode) (token : String) :
    (Numeral.startsWithDigit token = true ∧ parse token mode = .ok ((Numeral.number? token).map number)) ∨
    (∃ text p, token.toList = '/' :: text.toList ∧ Pattern.parse? text = some p ∧
      parse token mode = .ok (some (pattern text p))) ∨
    (∃ text, BadPattern token text ∧ parse token mode = .error (.badPattern text)) ∨
    (∃ c, SyscallClass.Word mode token c ∧ parse token mode = .ok (some (classOf c))) ∨
    (Bare token ∧ (∀ c, ¬ SyscallClass.Word mode token c) ∧ parse token mode = .ok (some (name token))) := by
  unfold parse
  by_cases digit : Numeral.startsWithDigit token = true
  · exact .inl ⟨digit, if_pos digit⟩
  · right
    rw [if_neg digit]
    cases after : Text.after? "/" token with
    | some text =>
      have slash : token.toList = '/' :: text.toList := (Text.after?_eq_some_iff "/" token text).mp after
      cases valid : Pattern.parse? text with
      | some p => exact .inl ⟨text, p, slash, valid, by simp only [valid]⟩
      | none => exact .inr (.inl ⟨text, ⟨slash, valid⟩, by simp only [valid]⟩)
    | none =>
      right
      right
      have bare : Bare token := by
        refine ⟨digit, fun text slash => ?_⟩
        rw [(Text.after?_eq_some_iff "/" token text).mpr slash] at after
        cases after
      cases word : SyscallClass.byWord? token (mode = .clause) with
      | some c => exact .inl ⟨c, (SyscallClass.byWord?_eq_some_iff mode token c).mp word, rfl⟩
      | none =>
        refine .inr ⟨bare, fun c h => ?_, rfl⟩
        rw [(SyscallClass.byWord?_eq_some_iff mode token c).mpr h] at word
        cases word

theorem parse_eq_error_iff (mode : Mode) (token : String) (e : ClauseError) :
    parse token mode = .error e ↔ ∃ text, BadPattern token text ∧ e = .badPattern text := by
  constructor
  · intro failed
    obtain ⟨-, read⟩ | ⟨_, _, -, -, read⟩ | ⟨text, bad, read⟩ | ⟨_, -, read⟩ | ⟨-, -, read⟩ :=
      parse_cases mode token
    case inr.inr.inl => exact ⟨text, bad, by rw [read] at failed; cases failed; rfl⟩
    all_goals rw [read] at failed; cases failed
  · rintro ⟨text, ⟨slash, invalid⟩, rfl⟩
    unfold parse
    rw [if_neg (startsWithDigit_of_slash slash), (Text.after?_eq_some_iff "/" token text).mpr slash]
    simp only [invalid]

/-! ## The numbers found -/

section Denotes

variable {mode : Mode} {t : Table} {token : String} {n : Nat}

theorem denotes_of_digit (digit : Numeral.startsWithDigit token = true) :
    Denotes mode t token n ↔ Numeral.number? token = some n ∧ n < t.size := by
  rw [Numeral.number?_eq_some_iff]
  constructor
  · intro h
    cases h with
    | number nonempty digits value small inTable => exact ⟨⟨⟨nonempty, digits, value⟩, small⟩, inTable⟩
    | pattern slash => exact absurd digit (startsWithDigit_of_slash slash)
    | classOf word => exact absurd digit (bare_of_word word).1
    | name bare => exact absurd digit bare.1
  · rintro ⟨⟨⟨nonempty, digits, value⟩, small⟩, inTable⟩
    exact .number nonempty digits value small inTable

theorem denotes_of_slash {text : String} (slash : token.toList = '/' :: text.toList) :
    Denotes mode t token n ↔ ∃ p, Pattern.parse? text = some p ∧
      ∃ called classes, t.entries[n]? = some ⟨some called, classes⟩ ∧ p.isMatch called = true := by
  constructor
  · intro h
    cases h with
    | number nonempty digits =>
      exact absurd (Numeral.startsWithDigit_of_spells ⟨nonempty, digits, rfl⟩) (startsWithDigit_of_slash slash)
    | pattern slash' valid allocated found =>
      rw [slash', List.cons_inj_right, String.toList_inj] at slash
      exact ⟨_, slash ▸ valid, _, _, allocated, found⟩
    | classOf word => exact absurd slash ((bare_of_word word).2 text)
    | name bare => exact absurd slash (bare.2 text)
  · rintro ⟨p, valid, called, classes, allocated, found⟩
    exact .pattern slash valid allocated found

theorem denotes_of_word {c : SyscallClass} (word : SyscallClass.Word mode token c) :
    Denotes mode t token n ↔
      ∃ called classes, t.entries[n]? = some ⟨some called, classes⟩ ∧ classes.has c = true := by
  have bare := bare_of_word word
  constructor
  · intro h
    cases h with
    | number nonempty digits => exact absurd (Numeral.startsWithDigit_of_spells ⟨nonempty, digits, rfl⟩) bare.1
    | pattern slash => exact absurd slash (bare.2 _)
    | classOf word' allocated has =>
      have same := SyscallClass.words_unique _ word.1 _ word'.1 rfl
      rw [(Prod.mk.inj same).2]
      exact ⟨_, _, allocated, has⟩
    | name _ noClass => exact absurd word (noClass c)
  · rintro ⟨called, classes, allocated, has⟩
    exact .classOf word allocated has

theorem denotes_of_bare (bare : Bare token) (noClass : ∀ c, ¬ SyscallClass.Word mode token c) :
    Denotes mode t token n ↔ ∃ classes, t.entries[n]? = some ⟨some token, classes⟩ := by
  constructor
  · intro h
    cases h with
    | number nonempty digits => exact absurd (Numeral.startsWithDigit_of_spells ⟨nonempty, digits, rfl⟩) bare.1
    | pattern slash => exact absurd slash (bare.2 _)
    | classOf word => exact absurd word (noClass _)
    | name _ _ allocated => exact ⟨_, allocated⟩
  · rintro ⟨classes, allocated⟩
    exact .name bare noClass allocated

theorem mem_numbers_iff {sel : Selector} (read : parse token mode = .ok (some sel)) :
    n ∈ sel.numbers t ↔ Denotes mode t token n := by
  obtain ⟨digit, parsed⟩ | ⟨text, p, slash, valid, parsed⟩ | ⟨text, -, parsed⟩ | ⟨c, word, parsed⟩ |
    ⟨bare, noClass, parsed⟩ := parse_cases mode token <;> rw [parsed] at read
  · rw [denotes_of_digit digit]
    cases number : Numeral.number? token with
    | none => rw [number] at read; cases read
    | some m =>
      rw [number] at read
      cases read
      rw [Option.some.injEq, numbers]
      split
      · rw [List.mem_singleton]
        omega
      · constructor
        · nofun
        · omega
  · cases read
    rw [denotes_of_slash slash, numbers, Table.mem_map_filter_allocated]
    simp [valid]
  · cases read
  · cases read
    rw [denotes_of_word word]
    exact Table.mem_map_filter_allocated t _ n
  · cases read
    rw [denotes_of_bare bare noClass, numbers, Table.mem_map_filter_allocated]
    simp

theorem digit_of_unread (unread : parse token mode = .ok none) :
    Numeral.startsWithDigit token = true ∧ Numeral.number? token = none := by
  obtain ⟨digit, parsed⟩ | ⟨_, _, -, -, parsed⟩ | ⟨_, -, parsed⟩ | ⟨_, -, parsed⟩ | ⟨-, -, parsed⟩ :=
    parse_cases mode token <;> rw [parsed] at unread
  · exact ⟨digit, Option.map_eq_none_iff.mp (Except.ok.inj unread)⟩
  all_goals cases unread

theorem not_denotes_of_unread (unread : parse token mode = .ok none) : ¬ Denotes mode t token n := by
  obtain ⟨digit, noNumber⟩ := digit_of_unread unread
  rw [denotes_of_digit digit, noNumber]
  exact fun h => nomatch h.1

theorem not_word_of_unread {c : SyscallClass} (unread : parse token mode = .ok none) :
    ¬ SyscallClass.Word mode token c :=
  fun word => (bare_of_word word).1 (digit_of_unread unread).1

theorem isClass_iff {sel : Selector} (read : parse token mode = .ok (some sel)) :
    sel.isClass = true ↔ ∃ c, SyscallClass.Word mode token c := by
  obtain ⟨digit, parsed⟩ | ⟨text, _, slash, -, parsed⟩ | ⟨_, -, parsed⟩ | ⟨c, word, parsed⟩ |
    ⟨-, noClass, parsed⟩ := parse_cases mode token <;> rw [parsed] at read
  · obtain ⟨m, -, rfl⟩ := Option.map_eq_some_iff.mp (Except.ok.inj read)
    exact ⟨nofun, fun ⟨c, word⟩ => absurd digit (bare_of_word word).1⟩
  · cases read
    exact ⟨nofun, fun ⟨c, word⟩ => absurd slash ((bare_of_word word).2 text)⟩
  · cases read
  · cases read
    exact ⟨fun _ => ⟨c, word⟩, fun _ => rfl⟩
  · cases read
    exact ⟨nofun, fun ⟨c, word⟩ => absurd word (noClass c)⟩

end Denotes

end Selector

end SyscallFilter
