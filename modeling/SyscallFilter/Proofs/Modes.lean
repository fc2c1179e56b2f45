import SyscallFilter.Proofs.Selection

/-!
# Lists inside and outside a clause

A list that is accepted outside a clause is accepted inside one too. It names the same calls there and maybe more, since
the bare words for classes are only understood inside.
-/

namespace SyscallFilter

/-! ## Words -/

namespace SyscallClass

/-- The words that stand for classes in a clause only. -/
def bareWords : List String := ["desc", "file", "memory", "process", "signal", "ipc", "network"]

theorem Word.clause {word : String} {c : SyscallClass} (known : Word .plain word c) : Word .clause word c :=
  ⟨known.1, .inl rfl⟩

theorem Word.plain_or {word : String} {c : SyscallClass} (known : Word .clause word c) :
    Word .plain word c ∨ word ∈ bareWords := by
  have all : ∀ a ∈ words, a.1.toList.head? = some '%' ∨ a.1 ∈ bareWords := by decide
  exact (all _ known.1).imp_left fun percent => ⟨known.1, .inr percent⟩

end SyscallClass

/-- No name of the table is one of the bare words, or begins like a list with a mark. -/
def Table.Unmistakable (t : Table) : Prop :=
  ∀ e ∈ t.entries, ∀ name ∈ e.name, name.toList.head? ≠ some '!' ∧ name ∉ SyscallClass.bareWords

namespace Selector

theorem parse_clause {token : String} (other : token ∉ SyscallClass.bareWords) :
    parse token .clause = parse token .plain := by
  have word : SyscallClass.byWord? token (Mode.clause = .clause) =
      SyscallClass.byWord? token (Mode.plain = .clause) := by
    refine Option.ext fun c => ?_
    rw [SyscallClass.byWord?_eq_some_iff, SyscallClass.byWord?_eq_some_iff]
    exact ⟨fun known => known.plain_or.resolve_right other, SyscallClass.Word.clause⟩
  unfold parse
  rw [word]

theorem Denotes.clause {t : Table} {token : String} {n : Nat} (clear : t.Unmistakable)
    (denotes : Denotes .plain t token n) : Denotes .clause t token n := by
  cases denotes with
  | number nonempty digits value small inTable => exact .number nonempty digits value small inTable
  | pattern slash valid allocated found => exact .pattern slash valid allocated found
  | classOf word allocated has => exact .classOf word.clause allocated has
  | name bare noClass allocated =>
    obtain ⟨-, other⟩ := clear _ (List.mem_of_getElem? allocated) token rfl
    exact .name bare (fun c word => word.plain_or.elim (noClass c) other) allocated

end Selector

/-! ## Lists -/

namespace CallSpec

variable {tables : List Table}

theorem addTokens_clause {list : List String} (other : ∀ token ∈ list, body token ∉ SyscallClass.bareWords) (any : Bool)
    (sets : List NumberSet) : addTokens .clause tables list any sets = addTokens .plain tables list any sets := by
  induction list generalizing any sets with
  | nil => rfl
  | cons token rest ih =>
    obtain ⟨first, later⟩ := List.forall_mem_cons.mp other
    unfold addTokens
    simp only [leading_snd, Selector.parse_clause first, ih later]

theorem addTo_clause {spec : String} (bare : spec.toList.head? ≠ some '!')
    (other : ∀ token ∈ tokens spec, body token ∉ SyscallClass.bareWords) (sets : List NumberSet) :
    addTo spec .clause tables sets = addTo spec .plain tables sets := by
  rw [addTo_eq, addTo_eq, turns_of_bare bare, turns_of_bare bare, unmarked_of_bare bare, unmarked_of_bare bare]
  simp only [addTokens_clause other]

section Clear

variable (clear : ∀ t ∈ tables, t.Unmistakable)

include clear

theorem Resolves.clause {token : String} (resolves : Resolves .plain tables token) : Resolves .clause tables token := by
  rcases resolves with ⟨c, word⟩ | ⟨t, table, n, denotes⟩
  · exact .inl ⟨c, word.clause⟩
  · exact .inr ⟨t, table, n, denotes.clause (clear t table)⟩

theorem Sound.clause {token : String} (sound : Sound .plain tables token) : Sound .clause tables token :=
  ⟨sound.1, sound.2.imp_left (Resolves.clause clear)⟩

theorem not_sound_of_mark {token : String} (mark : token.toList.head? = some '!') : ¬ Sound .plain tables token := by
  have other : token.toList.head? ≠ some '?' := by simp [mark]
  have same : body token = token := Text.ofList_dropWhile_of_head other
  have noWord (c : SyscallClass) : ¬ SyscallClass.Word .plain token c := by
    rintro ⟨-, clause | percent⟩
    · cases clause
    · simp [mark] at percent
  rintro ⟨-, resolves | tolerated⟩
  · unfold Resolves at resolves
    rw [same] at resolves
    rcases resolves with ⟨c, word⟩ | ⟨t, table, n, denotes⟩
    · exact noWord c word
    · cases denotes with
      | number nonempty digits =>
        have := digits '!' (List.mem_of_head? mark)
        revert this
        decide
      | pattern slash => simp [slash] at mark
      | classOf word => exact noWord _ word
      | name _ _ allocated => exact (clear t table _ (List.mem_of_getElem? allocated) token rfl).1 mark
  · exact other tolerated

theorem bare_of_accepted {spec : String} (accepted : Accepted .plain tables spec) : spec.toList.head? ≠ some '!' := by
  intro mark
  have same : unmarked .plain spec = spec := rfl
  unfold Accepted at accepted
  rw [same] at accepted
  rcases accepted with rfl | rfl | ⟨sound, -⟩
  · revert mark
    decide
  · revert mark
    decide
  · -- Outside a clause the mark is a letter of the first token.
    have noComma : '!' ≠ ',' := by decide
    obtain ⟨token, rest, split, first⟩ := Text.exists_tokens_of_head mark noComma
    have listed : tokens spec = token :: rest := (Text.tokens_eq_splitOn ',' spec).symm.trans split
    exact not_sound_of_mark clear first (sound token (listed ▸ List.mem_cons_self))

theorem Accepted.clause {spec : String} (accepted : Accepted .plain tables spec) : Accepted .clause tables spec := by
  have same : unmarked .clause spec = spec := unmarked_of_bare (bare_of_accepted clear accepted)
  unfold Accepted
  rw [same]
  refine accepted.imp_right (Or.imp_right fun ⟨sound, token, mem, resolves⟩ => ?_)
  exact ⟨fun token mem => (sound token mem).clause clear, token, mem, resolves.clause clear⟩

end Clear

end CallSpec

/-! ## Sets -/

/-- A set of the same polarity with the same bits and maybe more. -/
structure NumberSet.Widened (s s' : NumberSet) : Prop where
  inverted : s'.inverted = s.inverted
  bits : ∀ n ∈ s.bits, n ∈ s'.bits

namespace CallSpec

variable {tables : List Table} {sets : List NumberSet}

theorem Grown.widened {new new' : Table → Nat → Prop} {sets' sets'' : List NumberSet}
    (one : sets.length = tables.length) (wider : ∀ t ∈ tables, ∀ n, new t n → new' t n)
    (grown : Grown tables new sets sets') (grown' : Grown tables new' sets sets'') : List.Forall₂ NumberSet.Widened sets' sets'' := by
  refine List.forall₂_iff_get.mpr ⟨grown.length.trans grown'.length.symm, fun i lt lt' => ?_⟩
  have inSets : i < sets.length := grown.length ▸ lt
  have inTables : i < tables.length := one ▸ inSets
  obtain ⟨s', set', inverted', bits'⟩ := grown.each i _ _ (List.getElem?_eq_getElem inTables)
    (List.getElem?_eq_getElem inSets)
  obtain ⟨s'', set'', inverted'', bits''⟩ := grown'.each i _ _ (List.getElem?_eq_getElem inTables)
    (List.getElem?_eq_getElem inSets)
  obtain ⟨_, own'⟩ := List.getElem?_eq_some_iff.mp set'
  obtain ⟨_, own''⟩ := List.getElem?_eq_some_iff.mp set''
  rw [List.get_eq_getElem, List.get_eq_getElem, own', own'']
  refine ⟨inverted''.trans inverted'.symm, fun n mem => ?_⟩
  exact (bits'' n).mpr (((bits' n).mp mem).imp_right (wider _ (List.getElem_mem inTables) n))

theorem widened_addTo (clear : ∀ t ∈ tables, t.Unmistakable) (one : sets.length = tables.length) {spec : String}
    (accepted : Accepted .plain tables spec) :
    List.Forall₂ NumberSet.Widened (addTo spec .plain tables sets).state (addTo spec .clause tables sets).state := by
  have bare := bare_of_accepted clear accepted
  have unmarked (mode : Mode) : unmarked mode spec = spec := unmarked_of_bare bare
  have unturned (mode : Mode) : turns mode spec = 0 := turns_of_bare bare
  have same {sets : List NumberSet} : List.Forall₂ NumberSet.Widened sets sets :=
    List.forall₂_same.mpr fun _ _ => ⟨rfl, fun _ mem => mem⟩
  by_cases isNone : spec = "none"
  · rw [addTo_of_none ((unmarked .plain).trans isNone), addTo_of_none ((unmarked .clause).trans isNone), unturned,
      unturned]
    exact same
  by_cases isAll : spec = "all"
  · rw [addTo_of_all ((unmarked .plain).trans isAll), addTo_of_all ((unmarked .clause).trans isAll), unturned, unturned]
    exact same
  have grown (mode : Mode) (accepted : Accepted mode tables spec) :
      Grown tables (fun t n => ∃ token ∈ tokens spec, Selector.Denotes mode t (body token) n) (sets.map (·.turned 0))
        (addTo spec mode tables sets).state := by
    have read := grown_addTo accepted (by rwa [unmarked]) (by rwa [unmarked]) one
    rwa [unmarked, unturned] at read
  have length : (sets.map (·.turned 0)).length = tables.length := by rw [List.length_map, one]
  refine (grown .plain accepted).widened length (fun t table n => ?_) (grown .clause (accepted.clause clear))
  exact fun ⟨token, mem, denotes⟩ => ⟨token, mem, denotes.clause (clear t table)⟩

/-- A list that is accepted outside a clause is accepted inside one, and no set loses a bit or is turned round. The two
results are the same in everything, unless a token is one of the bare words for classes. -/
theorem addTo_clause_of_plain (clear : ∀ t ∈ tables, t.Unmistakable) (one : sets.length = tables.length) {spec : String}
    (accepted : (addTo spec .plain tables sets).result = .ok ()) :
    (addTo spec .clause tables sets).result = .ok () ∧
      List.Forall₂ NumberSet.Widened (addTo spec .plain tables sets).state (addTo spec .clause tables sets).state ∧
      ((∀ token ∈ tokens spec, body token ∉ SyscallClass.bareWords) →
        addTo spec .clause tables sets = addTo spec .plain tables sets) := by
  have sound : Accepted .plain tables spec := (addTo_ok_iff one).mp accepted
  exact ⟨(addTo_ok_iff one).mpr (sound.clause clear), widened_addTo clear one sound,
    fun other => addTo_clause (bare_of_accepted clear sound) other sets⟩

theorem addTo_clause_of_plain_memory :
    let t : Table := ⟨"demo", [⟨some "read", .ofList [.desc]⟩, ⟨some "mmap", .ofList [.memory]⟩]⟩
    let plain := addTo "?memory,read" .plain [t] [.empty]
    let clause := addTo "?memory,read" .clause [t] [.empty]
    t.Unmistakable ∧ plain.result = .ok () ∧ clause.result = .ok () ∧
      List.Forall₂ NumberSet.Widened plain.state clause.state ∧
      plain.state.map (·.bits) = [[0]] ∧ clause.state.map (·.bits) = [[0, 1]] := by
  -- A word that may stand for nothing, and does so outside a clause only.
  intro t plain clause
  have clear : t.Unmistakable := by
    unfold Table.Unmistakable
    decide
  have accepted : plain.result = .ok () := by decide +kernel
  obtain ⟨result, widened, -⟩ := addTo_clause_of_plain (List.forall_mem_singleton.mpr clear) rfl accepted
  exact ⟨clear, accepted, result, widened, by decide +kernel, by decide +kernel⟩

end CallSpec

end SyscallFilter
