import SyscallFilter.Spec
import SyscallFilter.Proofs.NumberSet
import SyscallFilter.Proofs.Selector

/-!
# What a list of calls means

A list is its marks and its tokens. Each token stands for numbers in each table, or for none; the list is
accepted if no token is at fault and one resolves, and then every set has the numbers that the tokens stand for.
-/

namespace SyscallFilter

namespace CallSpec

open Selector

/-! ## The parts of a list -/

/-- How many exclamation marks stand in front of a list. Only a clause has any. -/
def turns (mode : Mode) (spec : String) : Nat :=
  match mode with
  | .clause => (spec.toList.takeWhile (· = '!')).length
  | .plain => 0

/-- A list without these marks. -/
def unmarked (mode : Mode) (spec : String) : String :=
  match mode with
  | .clause => String.ofList (spec.toList.dropWhile (· = '!'))
  | .plain => spec

theorem negations_eq (mode : Mode) (spec : String) :
    mode.negations spec = (turns mode spec, unmarked mode spec) := by
  cases mode with
  | clause => exact Text.leading_eq '!' spec
  | plain => rfl

example : Mode.clause.negations "!!all" = (2, "all") := by decide

def tokens (list : String) : List String :=
  ((list.toList.splitOn ',').filter (· ≠ [])).map String.ofList

/-- A question mark stands in front of the token: it may stand for nothing. -/
def Tolerated (token : String) : Prop := token.toList.head? = some '?'

/-- The token without its question marks. -/
def body (token : String) : String := String.ofList (token.toList.dropWhile (· = '?'))

/-! ## What a token means -/

section Meaning

variable (mode : Mode) (tables : List Table)

/-- The token stands for a class, or for a number of some table. -/
def Resolves (token : String) : Prop :=
  (∃ c, SyscallClass.Word mode (body token) c) ∨ ∃ t ∈ tables, ∃ n, Denotes mode t (body token) n

/-- The token is a reason to refuse the list. -/
inductive Fault (token : String) : ClauseError → Prop
  | badPattern {text : String} (bad : BadPattern (body token) text) : Fault token (.badPattern text)
  | unknownCall (noPattern : ∀ text, ¬ BadPattern (body token) text) (nothing : ¬ Resolves mode tables token)
      (strict : ¬ Tolerated token) : Fault token (.unknownCall token)

/-- The token is no such reason: it is no bad pattern, and it resolves or need not. -/
def Sound (token : String) : Prop :=
  (∀ text, ¬ BadPattern (body token) text) ∧ (Resolves mode tables token ∨ Tolerated token)

theorem sound_iff (token : String) : Sound mode tables token ↔ ∀ e, ¬ Fault mode tables token e := by
  constructor
  · rintro ⟨noPattern, enough⟩ e fault
    cases fault with
    | badPattern bad => exact noPattern _ bad
    | unknownCall _ nothing strict => exact enough.elim nothing strict
  · intro sound
    have noPattern : ∀ text, ¬ BadPattern (body token) text := fun text bad => sound _ (.badPattern bad)
    refine ⟨noPattern, ?_⟩
    by_contra stop
    obtain ⟨nothing, strict⟩ := not_or.mp stop
    exact sound _ (.unknownCall noPattern nothing strict)

/-- No token before this one is at fault. -/
def Reached (list : List String) (token : String) : Prop :=
  ∃ before after, list = before ++ token :: after ∧ ∀ u ∈ before, Sound mode tables u

/-- Each set has the numbers `new` of its table besides those that it had. -/
structure Grown (new : Table → Nat → Prop) (sets sets' : List NumberSet) : Prop where
  length : sets'.length = sets.length
  each : ∀ (i : Nat) (t : Table) (s : NumberSet), tables[i]? = some t → sets[i]? = some s →
    ∃ s' : NumberSet, sets'[i]? = some s' ∧ s'.inverted = s.inverted ∧ ∀ n, n ∈ s'.bits ↔ n ∈ s.bits ∨ new t n

end Meaning

variable {mode : Mode} {tables : List Table}

namespace Grown

variable {new new' : Table → Nat → Prop} {sets sets' sets'' : List NumberSet}

theorem of_none (nothing : ∀ t ∈ tables, ∀ n, ¬ new t n) : Grown tables new sets sets := by
  refine ⟨rfl, fun i t s table set => ⟨s, set, rfl, fun n => ?_⟩⟩
  exact (or_iff_left (nothing t (List.mem_of_getElem? table) n)).symm

theorem trans (first : Grown tables new sets sets') (second : Grown tables new' sets' sets'') :
    Grown tables (fun t n => new t n ∨ new' t n) sets sets'' := by
  refine ⟨second.length.trans first.length, fun i t s table set => ?_⟩
  obtain ⟨s', set', inverted', bits'⟩ := first.each i t s table set
  obtain ⟨s'', set'', inverted'', bits''⟩ := second.each i t s' table set'
  refine ⟨s'', set'', inverted''.trans inverted', fun n => ?_⟩
  rw [bits'', bits', or_assoc]

theorem congr (grown : Grown tables new sets sets') (same : ∀ t n, new t n ↔ new' t n) :
    Grown tables new' sets sets' := by
  refine ⟨grown.length, fun i t s table set => ?_⟩
  obtain ⟨s', set', inverted, bits⟩ := grown.each i t s table set
  exact ⟨s', set', inverted, fun n => by rw [bits, same]⟩

end Grown

/-! ## One token -/

/-- What a token that could be read does to the sets, and whether it resolves. -/
def lookUp (tables : List Table) (sets : List NumberSet) : Option Selector → Bool × List NumberSet
  | some sel => sel.resolve tables sets
  | none => (false, sets)

theorem grown_resolve {token : String} {sel : Selector} (read : parse (body token) mode = .ok (some sel))
    {sets : List NumberSet} (one : sets.length = tables.length) :
    Grown tables (fun t n => Denotes mode t (body token) n) sets (sel.resolve tables sets).2 := by
  unfold resolve
  constructor
  · rw [List.length_zipWith, List.length_map, one, Nat.min_self]
  · intro i t s table set
    refine ⟨s.addAll (sel.numbers t), ?_, s.inverted_addAll _, fun n => ?_⟩
    · simp only [List.getElem?_zipWith, List.getElem?_map, table, set, Option.map_some]
    · rw [NumberSet.mem_bits_addAll, mem_numbers_iff read, or_comm]

theorem resolve_fst_iff {token : String} {sel : Selector} (read : parse (body token) mode = .ok (some sel))
    (sets : List NumberSet) :
    (sel.resolve tables sets).1 = true ↔ Resolves mode tables token := by
  unfold resolve Resolves
  rw [Bool.or_eq_true, isClass_iff read]
  simp only [List.any_map, List.any_eq_true, Function.comp_apply, Bool.not_eq_true',
    List.isEmpty_eq_false_iff_exists_mem, mem_numbers_iff read]

theorem lookUp_spec {token : String} {sel : Option Selector} (read : parse (body token) mode = .ok sel)
    {sets : List NumberSet} (one : sets.length = tables.length) :
    ((lookUp tables sets sel).1 = true ↔ Resolves mode tables token) ∧
      Grown tables (fun t n => Denotes mode t (body token) n) sets (lookUp tables sets sel).2 := by
  cases sel with
  | some sel => exact ⟨resolve_fst_iff read sets, grown_resolve read one⟩
  | none =>
    refine ⟨⟨nofun, ?_⟩, .of_none fun t _ n => not_denotes_of_unread read⟩
    rintro (⟨c, word⟩ | ⟨t, -, n, denotes⟩)
    · exact absurd word (not_word_of_unread read)
    · exact absurd denotes (not_denotes_of_unread read)

theorem marks_ne_zero_iff (token : String) : (Text.leading '?' token).1 ≠ 0 ↔ Tolerated token := by
  rw [Text.leading_eq]
  exact Text.length_takeWhile_ne_zero_iff '?' token.toList

theorem leading_snd (token : String) : (Text.leading '?' token).2 = body token := by
  rw [Text.leading_eq]
  rfl

theorem addTokens_of_badPattern {token text : String} (bad : BadPattern (body token) text) (rest : List String)
    (any : Bool) (sets : List NumberSet) :
    addTokens mode tables (token :: rest) any sets = ⟨.error (.badPattern text), sets, []⟩ := by
  have failed := (parse_eq_error_iff mode (body token) _).mpr ⟨text, bad, rfl⟩
  unfold addTokens
  simp only [leading_snd, failed]

theorem addTokens_of_read {token : String} {sel : Option Selector} (read : parse (body token) mode = .ok sel)
    (rest : List String) (any : Bool) (sets : List NumberSet) :
    let found := lookUp tables sets sel
    let done := addTokens mode tables (token :: rest) any sets
    let next := addTokens mode tables rest (any || found.1) found.2
    (found.1 = true ∨ Tolerated token → done.result = next.result ∧ done.state = next.state) ∧
      (¬ (found.1 = true ∨ Tolerated token) →
        done.result = .error (.unknownCall token) ∧ done.state = found.2) := by
  have go : ((lookUp tables sets sel).1 || (Text.leading '?' token).1 != 0) = true ↔
      (lookUp tables sets sel).1 = true ∨ Tolerated token := by
    rw [Bool.or_eq_true, bne_iff_ne, marks_ne_zero_iff]
  have step : addTokens mode tables (token :: rest) any sets =
      let found := lookUp tables sets sel
      let next := addTokens mode tables rest (any || found.1) found.2
      let event := Event.selectorResolved token found.1 ((Text.leading '?' token).1 != 0)
      if found.1 || (Text.leading '?' token).1 != 0 then { next with events := event :: next.events }
      else ⟨.error (.unknownCall token), found.2, [event]⟩ := by
    rw [addTokens]
    simp only [leading_snd, read]
    cases sel <;> rfl
  constructor
  · intro h
    rw [step, if_pos (go.mpr h)]
    exact ⟨rfl, rfl⟩
  · intro h
    rw [step, if_neg (mt go.mp h)]
    exact ⟨rfl, rfl⟩

theorem addTokens_of_fault {token : String} {e : ClauseError} (fault : Fault mode tables token e)
    (rest : List String) (any : Bool) {sets : List NumberSet} (one : sets.length = tables.length) :
    (addTokens mode tables (token :: rest) any sets).result = .error e ∧
      Grown tables (fun t n => Denotes mode t (body token) n) sets
        (addTokens mode tables (token :: rest) any sets).state := by
  cases fault with
  | badPattern bad =>
    rw [addTokens_of_badPattern bad]
    refine ⟨rfl, .of_none fun t _ n denotes => ?_⟩
    obtain ⟨p, valid, -⟩ := (denotes_of_slash bad.1).mp denotes
    rw [bad.2] at valid
    cases valid
  | unknownCall noPattern nothing strict =>
    cases read : parse (body token) mode with
    | error e =>
      obtain ⟨text, bad, -⟩ := (parse_eq_error_iff mode (body token) e).mp read
      exact absurd bad (noPattern text)
    | ok sel =>
      obtain ⟨resolves, grown⟩ := lookUp_spec read one
      obtain ⟨result, state⟩ := (addTokens_of_read read rest any sets).2
        (by rw [resolves]; exact not_or.mpr ⟨nothing, strict⟩)
      exact ⟨result, state ▸ grown⟩

theorem addTokens_of_sound {token : String} (sound : Sound mode tables token) {sets : List NumberSet}
    (one : sets.length = tables.length) :
    ∃ found sets', (found = true ↔ Resolves mode tables token) ∧
      Grown tables (fun t n => Denotes mode t (body token) n) sets sets' ∧
      ∀ rest any, (addTokens mode tables (token :: rest) any sets).result =
          (addTokens mode tables rest (any || found) sets').result ∧
        (addTokens mode tables (token :: rest) any sets).state =
          (addTokens mode tables rest (any || found) sets').state := by
  cases read : parse (body token) mode with
  | error e =>
    obtain ⟨text, bad, -⟩ := (parse_eq_error_iff mode (body token) e).mp read
    exact absurd bad (sound.1 text)
  | ok sel =>
    obtain ⟨resolves, grown⟩ := lookUp_spec read one
    refine ⟨_, _, resolves, grown, fun rest any => (addTokens_of_read read rest any sets).1 ?_⟩
    rw [resolves]
    exact sound.2

/-! ## All tokens -/

theorem reached_cons (token : String) (rest : List String) (u : String) :
    Reached mode tables (token :: rest) u ↔ u = token ∨ Sound mode tables token ∧ Reached mode tables rest u := by
  constructor
  · rintro ⟨_ | ⟨first, before⟩, after, split, sound⟩
    · exact .inl (List.cons.inj split).1.symm
    · obtain ⟨rfl, later⟩ := List.cons.inj split
      refine .inr ⟨sound token List.mem_cons_self, before, after, later, fun v h => ?_⟩
      exact sound v (List.mem_cons_of_mem token h)
  · rintro (rfl | ⟨first, before, after, rfl, sound⟩)
    · exact ⟨[], rest, rfl, nofun⟩
    · refine ⟨token :: before, after, rfl, fun v h => ?_⟩
      rcases List.mem_cons.mp h with rfl | h
      · exact first
      · exact sound v h

theorem Reached.mem {list : List String} {token : String} (reached : Reached mode tables list token) :
    token ∈ list := by
  obtain ⟨before, after, rfl, -⟩ := reached
  exact List.mem_append_right before List.mem_cons_self

theorem reached_iff_mem {list : List String} (sound : ∀ token ∈ list, Sound mode tables token) (token : String) :
    Reached mode tables list token ↔ token ∈ list := by
  refine ⟨Reached.mem, fun h => ?_⟩
  obtain ⟨before, after, rfl⟩ := List.append_of_mem h
  exact ⟨before, after, rfl, fun u hu => sound u (List.mem_append_left _ hu)⟩

/-- What the tokens of a list come to: the first fault, or else whether any of them resolves. -/
structure Read (mode : Mode) (tables : List Table) (list : List String) (any : Bool) (sets : List NumberSet)
    (done : Attempt (List NumberSet) Bool) : Prop where
  error : ∀ e, done.result = .error e ↔ ∃ token, Reached mode tables list token ∧ Fault mode tables token e
  ok : ∀ found, done.result = .ok found ↔
    (∀ token ∈ list, Sound mode tables token) ∧
      (found = true ↔ any = true ∨ ∃ token ∈ list, Resolves mode tables token)
  grown : Grown tables (fun t n => ∃ token, Reached mode tables list token ∧ Denotes mode t (body token) n)
    sets done.state

theorem addTokens_read (list : List String) (any : Bool) {sets : List NumberSet}
    (one : sets.length = tables.length) :
    Read mode tables list any sets (addTokens mode tables list any sets) := by
  induction list generalizing any sets with
  | nil =>
    have unreached : ∀ token, ¬ Reached mode tables [] token := by
      rintro token ⟨before, after, split, -⟩
      exact absurd split.symm (List.append_ne_nil_of_right_ne_nil before (List.cons_ne_nil token after))
    refine ⟨fun e => ⟨nofun, ?_⟩, fun found => ?_, .of_none ?_⟩
    · rintro ⟨token, reached, -⟩
      exact absurd reached (unreached token)
    · constructor
      · rintro ⟨⟩
        exact ⟨nofun, by simp⟩
      · rintro ⟨-, same⟩
        have : any = found := Bool.eq_iff_iff.mpr (by simpa using same.symm)
        exact congrArg Except.ok this
    · rintro t - n ⟨token, reached, -⟩
      exact unreached token reached
  | cons token rest ih =>
    by_cases sound : Sound mode tables token
    · obtain ⟨found, sets', resolves, grown, same⟩ := addTokens_of_sound sound one
      obtain ⟨result, state⟩ := same rest any
      have next := ih (any || found) (grown.length.trans one)
      refine ⟨fun e => ?_, fun b => ?_, ?_⟩
      · rw [result, next.error]
        simp only [reached_cons, or_and_right, exists_or, exists_eq_left, sound, true_and]
        exact (or_iff_right ((sound_iff mode tables token).mp sound e)).symm
      · rw [result, next.ok, Bool.or_eq_true, resolves, or_assoc]
        simp only [List.forall_mem_cons, List.exists_mem_cons_iff, sound, true_and]
      · rw [state]
        refine (grown.trans next.grown).congr fun t n => ?_
        simp only [reached_cons, or_and_right, exists_or, exists_eq_left, sound, true_and]
    · -- The fault ends the list, so this is the only token that is reached.
      obtain ⟨e, fault⟩ : ∃ e, Fault mode tables token e := by
        rw [sound_iff] at sound
        exact not_forall_not.mp sound
      obtain ⟨result, grown⟩ := addTokens_of_fault fault rest any one
      have only : ∀ u, Reached mode tables (token :: rest) u ↔ u = token := by
        intro u
        rw [reached_cons]
        exact or_iff_left fun h => sound h.1
      refine ⟨fun e' => ?_, fun b => ?_, ?_⟩
      · simp only [only, exists_eq_left]
        constructor
        · intro failed
          rw [result] at failed
          exact Except.error.inj failed ▸ fault
        · exact fun fault' => (addTokens_of_fault fault' rest any one).1
      · rw [result]
        exact ⟨nofun, fun h => absurd (h.1 token List.mem_cons_self) sound⟩
      · refine grown.congr fun t n => ?_
        simp only [only, exists_eq_left]

/-! ## The whole list -/

theorem addTo_eq (spec : String) (mode : Mode) (tables : List Table) (sets : List NumberSet) :
    addTo spec mode tables sets =
      let k := turns mode spec
      let list := unmarked mode spec
      if list = "none" then ⟨.ok (), sets.map (·.turned k), []⟩
      else if list = "all" then ⟨.ok (), sets.map (·.turned (k + 1)), []⟩
      else
        let done := addTokens mode tables (tokens list) false (sets.map (·.turned k))
        match done.result with
        | .error e => { done with result := .error e }
        | .ok true => { done with result := .ok () }
        | .ok false => { done with result := .error (.unknownCall spec) } := by
  have turned : (fun s : NumberSet => s.invertTimes (turns mode spec)) = fun s => s.turned (turns mode spec) := by
    funext s
    exact s.invertTimes_eq_turned _
  have again : (sets.map (·.turned (turns mode spec))).map NumberSet.invert =
      sets.map (·.turned (turns mode spec + 1)) := by
    rw [List.map_map]
    exact List.map_congr_left fun s _ => s.invert_turned _
  unfold addTo
  rw [negations_eq]
  simp only [turned, again, Text.tokens_eq_splitOn]
  rfl

theorem addTo_of_none {spec : String} {mode : Mode} (list : unmarked mode spec = "none") (tables : List Table)
    (sets : List NumberSet) :
    addTo spec mode tables sets = ⟨.ok (), sets.map (·.turned (turns mode spec)), []⟩ := by
  rw [addTo_eq]
  exact if_pos list

theorem addTo_of_all {spec : String} {mode : Mode} (list : unmarked mode spec = "all") (tables : List Table)
    (sets : List NumberSet) :
    addTo spec mode tables sets = ⟨.ok (), sets.map (·.turned (turns mode spec + 1)), []⟩ := by
  have notNone : unmarked mode spec ≠ "none" := by
    rw [list]
    decide
  rw [addTo_eq]
  exact (if_neg notNone).trans (if_pos list)

/-- A list without a fault in which nothing resolves is an error itself. -/
def verdict (spec : String) : Except ClauseError Bool → Except ClauseError Unit
  | .error e => .error e
  | .ok true => .ok ()
  | .ok false => .error (.unknownCall spec)

theorem verdict_eq_ok_iff (spec : String) (r : Except ClauseError Bool) :
    verdict spec r = .ok () ↔ r = .ok true := by
  rcases r with e | _ | _ <;> simp [verdict]

theorem verdict_eq_error_iff (spec : String) (r : Except ClauseError Bool) (e : ClauseError) :
    verdict spec r = .error e ↔ r = .error e ∨ r = .ok false ∧ e = .unknownCall spec := by
  rcases r with e' | _ | _ <;> simp [verdict, eq_comm]

theorem addTo_of_tokens {spec : String} {mode : Mode} (notNone : unmarked mode spec ≠ "none")
    (notAll : unmarked mode spec ≠ "all") (tables : List Table) (sets : List NumberSet) :
    let read := addTokens mode tables (tokens (unmarked mode spec)) false (sets.map (·.turned (turns mode spec)))
    (addTo spec mode tables sets).result = verdict spec read.result ∧
      (addTo spec mode tables sets).state = read.state := by
  intro read
  have equation := (addTo_eq spec mode tables sets).trans ((if_neg notNone).trans (if_neg notAll))
  rw [equation]
  rcases h : read.result with e | _ | _ <;> simp only [read] at h <;> simp only [h] <;> exact ⟨rfl, rfl⟩

/-- What holds of the sets through every turn and every selector holds of them through a whole list. -/
theorem addTo_induction {P : List NumberSet → Prop} (turned : ∀ k sets, P sets → P (sets.map (·.turned k)))
    (resolved : ∀ (sel : Selector) sets, P sets → P (sel.resolve tables sets).2) (spec : String) (mode : Mode)
    {sets : List NumberSet} (start : P sets) : P (addTo spec mode tables sets).state := by
  have read (list : List String) (any : Bool) {sets : List NumberSet} (start : P sets) :
      P (addTokens mode tables list any sets).state := by
    induction list generalizing any sets with
    | nil => exact start
    | cons token rest ih =>
      cases parsed : parse (body token) mode with
      | error e =>
        unfold addTokens
        simp only [leading_snd, parsed]
        exact start
      | ok sel =>
        have found : P (lookUp tables sets sel).2 := by
          cases sel with
          | none => exact start
          | some sel => exact resolved sel sets start
        obtain ⟨goesOn, stops⟩ := addTokens_of_read parsed rest any sets
        by_cases on : (lookUp tables sets sel).1 = true ∨ Tolerated token
        · rw [(goesOn on).2]
          exact ih _ found
        · rw [(stops on).2]
          exact found
  by_cases isNone : unmarked mode spec = "none"
  · rw [addTo_of_none isNone]
    exact turned _ sets start
  · by_cases isAll : unmarked mode spec = "all"
    · rw [addTo_of_all isAll]
      exact turned _ sets start
    · rw [(addTo_of_tokens isNone isAll tables sets).2]
      exact read _ false (turned _ sets start)

/-- `none` and `all` only turn the sets. Any other list is accepted if no token is at fault and one resolves;
else the first fault is the error. The sets get what the tokens up to there stand for. -/
theorem addTo_means (spec : String) (mode : Mode) (tables : List Table) (sets : List NumberSet)
    (one : sets.length = tables.length) :
    let k := turns mode spec
    let list := unmarked mode spec
    let done := addTo spec mode tables sets
    (list = "none" → done.result = .ok () ∧ done.state = sets.map (·.turned k)) ∧
    (list = "all" → done.result = .ok () ∧ done.state = sets.map (·.turned (k + 1))) ∧
    (list ≠ "none" → list ≠ "all" →
      (done.result = .ok () ↔
        (∀ token ∈ tokens list, Sound mode tables token) ∧ ∃ token ∈ tokens list, Resolves mode tables token) ∧
      (∀ e, done.result = .error e ↔
        (∃ token, Reached mode tables (tokens list) token ∧ Fault mode tables token e) ∨
          (∀ token ∈ tokens list, Sound mode tables token) ∧
            (¬ ∃ token ∈ tokens list, Resolves mode tables token) ∧ e = .unknownCall spec) ∧
      Grown tables (fun t n => ∃ token, Reached mode tables (tokens list) token ∧ Denotes mode t (body token) n)
        (sets.map (·.turned k)) done.state ∧
      (done.result = .ok () →
        Grown tables (fun t n => ∃ token ∈ tokens list, Denotes mode t (body token) n)
          (sets.map (·.turned k)) done.state)) := by
  intro k list done
  refine ⟨fun isNone => ?_, fun isAll => ?_, fun notNone notAll => ?_⟩
  · have done_eq : done = _ := addTo_of_none isNone tables sets
    rw [done_eq]
    exact ⟨rfl, rfl⟩
  · have done_eq : done = _ := addTo_of_all isAll tables sets
    rw [done_eq]
    exact ⟨rfl, rfl⟩
  obtain ⟨result, state⟩ : done.result = _ ∧ done.state = _ := addTo_of_tokens notNone notAll tables sets
  have read : Read mode tables (tokens list) false (sets.map (·.turned k)) _ :=
    addTokens_read (tokens list) false (by rw [List.length_map, one])
  have accepted : done.result = .ok () ↔
      (∀ token ∈ tokens list, Sound mode tables token) ∧ ∃ token ∈ tokens list, Resolves mode tables token := by
    rw [result, verdict_eq_ok_iff, read.ok]
    simp only [Bool.false_eq_true, false_or, true_iff]
  refine ⟨accepted, fun e => ?_, state ▸ read.grown, fun ok => ?_⟩
  · rw [result, verdict_eq_error_iff, read.error, read.ok]
    simp only [Bool.false_eq_true, false_or, false_iff, and_assoc]
  · rw [state]
    refine read.grown.congr fun t n => ?_
    simp only [reached_iff_mem (accepted.mp ok).1]

theorem addTo_means_with_missing :
    let t : Table := ⟨"demo", [⟨some "read", .empty⟩]⟩
    [NumberSet.empty].length = [t].length ∧
      ∃ token ∈ tokens (unmarked .clause "!?nope,read"), Resolves .clause [t] token := by
  intro t
  refine ⟨rfl, ?_⟩
  obtain ⟨-, -, meaning⟩ := addTo_means "!?nope,read" .clause [t] [.empty] rfl
  obtain ⟨accepted, -⟩ := meaning (by decide) (by decide)
  exact (accepted.mp (by decide +kernel)).2

end CallSpec

end SyscallFilter
