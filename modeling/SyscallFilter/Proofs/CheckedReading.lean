import Mathlib.Data.String.Basic
import SyscallFilter.Filter
import SyscallFilter.Injection
import SyscallFilter.Proofs.CallSpec
import SyscallFilter.Proofs.Name
import SyscallFilter.Proofs.Rejection
import SyscallFilter.Proofs.Slots
import SyscallFilter.Proofs.Table

/-!
# Reading without a fault

What reads the texts of a clause, with every operation on the way that is not defined for all arguments: cuts at a
byte, differences of lengths, numbers as words of 32 bits, bits of sets. None of them meets a fault, if no table has
2^32 numbers or more.
-/

namespace SyscallFilter.Checked

/-! ## Cuts -/

/-- The text from byte `k` on. -/
def dropBytes : Nat → List Char → Checked (List Char)
  | 0, cs => .ok cs
  | _ + 1, [] => .error .boundary
  | k + 1, c :: cs => if c.utf8Size ≤ k + 1 then dropBytes (k + 1 - c.utf8Size) cs else .error .boundary

/-- The first `k` bytes, if they are whole characters. -/
def takeBytes? : Nat → List Char → Option (List Char)
  | 0, _ => some []
  | _ + 1, [] => none
  | k + 1, c :: cs =>
    if c.utf8Size ≤ k + 1 then (takeBytes? (k + 1 - c.utf8Size) cs).map (c :: ·) else none

theorem dropBytes_of_takeBytes {k : Nat} {cs start : List Char} (taken : takeBytes? k cs = some start) :
    ∃ rest, cs = start ++ rest ∧ dropBytes k cs = .ok rest := by
  fun_induction takeBytes? k cs generalizing start with
  | case1 cs =>
    cases taken
    exact ⟨cs, rfl, by rw [dropBytes]⟩
  | case2 => cases taken
  | case3 k c cs fits ih =>
    obtain ⟨next, later, rfl⟩ := Option.map_eq_some_iff.mp taken
    obtain ⟨rest, split, dropped⟩ := ih later
    refine ⟨rest, congrArg (c :: ·) split, ?_⟩
    rw [dropBytes, if_pos fits, dropped]
  | case4 => cases taken

/-- A name without its leading `SIG`, which is cut off after three bytes. -/
def bareName (name : String) : Checked String :=
  match takeBytes? 3 name.toList with
  | none => .ok name
  | some start =>
    if Text.sameLetters (String.ofList start) "SIG" then do
      let rest ← dropBytes 3 name.toList
      .ok (String.ofList rest)
    else .ok name

theorem utf8Size_of_toLower {c d : Char} (lower : c.toLower = d) (ascii : d.val ≤ 127) : c.utf8Size = 1 := by
  rw [Char.utf8Size_eq_one_iff]
  delta Char.toLower at lower
  grind

theorem takeBytes?_of_marked {name : String} {rest : List Char}
    (marked : Text.lower name = ['s', 'i', 'g'] ++ rest) :
    ∃ start, takeBytes? 3 name.toList = some start ∧ Text.sameLetters (String.ofList start) "SIG" = true := by
  unfold Text.lower at marked
  match letters : name.toList with
  | [] | [_] | [_, _] => simp [letters] at marked
  | s :: i :: g :: cs =>
    rw [letters] at marked
    simp only [List.map_cons, List.cons_append, List.nil_append, List.cons.injEq] at marked
    obtain ⟨s', i', g', -⟩ := marked
    refine ⟨[s, i, g], ?_, ?_⟩
    · simp [takeBytes?, utf8Size_of_toLower s', utf8Size_of_toLower i', utf8Size_of_toLower g']
    · simp [Text.sameLetters, s', i', g']

theorem bareName_eq (name : String) : bareName name = .ok (Signal.bareName name) := by
  -- The cut is never inside a character: the three bytes before it are letters.
  have unmarked (plain : ∀ start, takeBytes? 3 name.toList = some start →
      Text.sameLetters (String.ofList start) "SIG" = false) : Signal.bareName name = name := by
    rcases Signal.bareName_cases name with marked | ⟨same, -⟩
    · obtain ⟨start, taken, letters⟩ := takeBytes?_of_marked marked
      rw [plain start taken] at letters
      cases letters
    · exact same
  unfold bareName
  cases taken : takeBytes? 3 name.toList with
  | none =>
    rw [unmarked fun start some => absurd (taken.symm.trans some) nofun]
  | some start =>
    cases letters : Text.sameLetters (String.ofList start) "SIG" with
    | false =>
      rw [unmarked fun start' taken' => Option.some.inj (taken.symm.trans taken') ▸ letters]
      simp only [letters, Bool.false_eq_true, if_false]
    | true =>
      obtain ⟨rest, split, dropped⟩ := dropBytes_of_takeBytes taken
      have lower : start.map Char.toLower = ['s', 'i', 'g'] := by
        simpa [Text.sameLetters] using letters
      obtain ⟨s, i, g, rfl, s', i', g'⟩ :
          ∃ s i g, start = [s, i, g] ∧ s.toLower = 's' ∧ i.toLower = 'i' ∧ g.toLower = 'g' := by
        simpa [List.map_eq_cons_iff] using lower
      have cut : Signal.bareName name = String.ofList rest := by
        unfold Signal.bareName
        rw [split]
        simp [s', i', g']
      simp only [letters, if_true, dropped, ok_bind, cut]

/-- The signal with a name. -/
def signalNamed? (name : String) : Checked (Option Nat) := do
  let bare ← bareName name
  let known ← Signal.names.mapM bareName
  .ok ((known.findIdx? (Text.sameLetters · bare)).map (· + 1))

theorem signalNamed?_eq (name : String) : signalNamed? name = .ok (Signal.byName? name) := by
  unfold signalNamed? Signal.byName?
  rw [bareName_eq, ok_bind, mapM_eq_ok fun known _ => bareName_eq known, ok_bind, List.findIdx?_map]
  rfl

def signal? (token : String) : Checked (Option Nat) :=
  if Numeral.startsWithDigit token then .ok (Numeral.upTo 255 token) else signalNamed? token

theorem signal?_eq (token : String) : signal? token = .ok (Signal.parse? token) := by
  unfold signal? Signal.parse?
  rw [signalNamed?_eq]
  split <;> rfl

/-- The marks in front of a list, counted as bytes that the list has more with them than without. -/
def negations (mode : Mode) (spec : String) : Checked (Nat × String) :=
  match mode with
  | .plain => .ok (0, spec)
  | .clause => do
    let rest := (Text.leading '!' spec).2
    let count ← sub spec.utf8ByteSize rest.utf8ByteSize
    .ok (count, rest)

theorem utf8Len_eq (cs : List Char) :
    String.utf8Len cs = (cs.takeWhile (· = '!')).length + String.utf8Len (cs.dropWhile (· = '!')) := by
  induction cs with
  | nil => rfl
  | cons c cs ih =>
    by_cases mark : c = '!'
    · subst mark
      have one : '!'.utf8Size = 1 := rfl
      simp [ih, one]
      omega
    · simp [mark]

theorem negations_eq (mode : Mode) (spec : String) : negations mode spec = .ok (mode.negations spec) := by
  cases mode with
  | plain => rfl
  | clause =>
    have size : spec.utf8ByteSize = (Text.leading '!' spec).1 + (Text.leading '!' spec).2.utf8ByteSize := by
      rw [Text.leading_eq, String.utf8ByteSize_ofList, ← utf8Len_eq, ← String.utf8ByteSize_ofList, String.ofList_toList]
    unfold negations Mode.negations
    simp only [size, sub_eq_ok (Nat.le_add_left _ _), Nat.add_sub_cancel_right, ok_bind]

/-! ## Lists of calls -/

/-- Every number of a table takes 32 bits at most. -/
def SmallTables (tables : List Table) : Prop := ∀ t ∈ tables, t.size < 2 ^ 32

theorem lt_size_of_mem_numbers {sel : Selector} {t : Table} {n : Nat} (mem : n ∈ sel.numbers t) : n < t.size := by
  have allocated (q : Nat × String × Flags SyscallClass → Bool) (mem : n ∈ (t.allocated.filter q).map (·.1)) :
      n < t.size := by
    obtain ⟨called, classes, entry, -⟩ := (t.mem_map_filter_allocated q n).mp mem
    exact (List.getElem?_eq_some_iff.mp entry).1
  cases sel with
  | number k =>
    obtain ⟨lt, one⟩ : k < t.size ∧ n = k := by simpa [Selector.numbers] using mem
    exact one ▸ lt
  | pattern _ p => exact allocated _ mem
  | classOf c => exact allocated _ mem
  | name s => exact allocated _ mem

theorem toNat_toUInt32 {n : Nat} (lt : n < 2 ^ 32) : n.toUInt32.toNat = n := Nat.mod_eq_of_lt lt

/-- Adds numbers, each as a word of 32 bits. -/
def addAll (s : NumberSet) (ns : List Nat) : Checked NumberSet := ns.foldlM (fun s n => add s n.toUInt32) s

theorem addAll_eq {ns : List Nat} (s : NumberSet) (small : ∀ n ∈ ns, n < 2 ^ 32) :
    addAll s ns = .ok (s.addAll ns) :=
  foldlM_eq_ok s fun s n mem => by rw [add_eq, toNat_toUInt32 (small n mem)]

/-- Adds the numbers found in each table to the set of the table. -/
def addEach : List NumberSet → List (List Nat) → Checked (List NumberSet)
  | s :: sets, ns :: found => do
    let s ← addAll s ns
    let sets ← addEach sets found
    .ok (s :: sets)
  | _, _ => .ok []

theorem addEach_eq (sets : List NumberSet) {found : List (List Nat)} (small : ∀ ns ∈ found, ∀ n ∈ ns, n < 2 ^ 32) :
    addEach sets found = .ok (List.zipWith NumberSet.addAll sets found) := by
  fun_induction addEach sets found with
  | case1 s sets ns found ih =>
    rw [addAll_eq s (small ns List.mem_cons_self), ih fun ns mem => small ns (List.mem_cons_of_mem _ mem)]
    rfl
  | case2 sets found none =>
    cases sets with
    | nil => rfl
    | cons s sets =>
      cases found with
      | nil => rfl
      | cons ns found => exact absurd rfl (none s sets ns found rfl)

def resolve (tables : List Table) (sets : List NumberSet) (sel : Selector) : Checked (Bool × List NumberSet) := do
  let found := tables.map sel.numbers
  let sets ← addEach sets found
  .ok (sel.isClass || found.any (!·.isEmpty), sets)

variable {tables : List Table}

theorem resolve_eq (small : SmallTables tables) (sets : List NumberSet) (sel : Selector) :
    resolve tables sets sel = .ok (sel.resolve tables sets) := by
  have found : ∀ ns ∈ tables.map sel.numbers, ∀ n ∈ ns, n < 2 ^ 32 := by
    intro ns mem n given
    obtain ⟨t, table, rfl⟩ := List.mem_map.mp mem
    exact Nat.lt_trans (lt_size_of_mem_numbers given) (small t table)
  unfold resolve
  simp only [addEach_eq sets found, ok_bind]
  rfl

/-- The same for a token that stands for nothing. -/
def lookUp (tables : List Table) (sets : List NumberSet) : Option Selector → Checked (Bool × List NumberSet)
  | some sel => resolve tables sets sel
  | none => .ok (false, sets)

def addTokens (mode : Mode) (tables : List Table) :
    List String → Bool → List NumberSet → Checked (Attempt (List NumberSet) Bool)
  | [], any, sets => .ok ⟨.ok any, sets, []⟩
  | token :: rest, any, sets =>
    let (marks, body) := Text.leading '?' token
    match Selector.parse body mode with
    | .error e => .ok ⟨.error e, sets, []⟩
    | .ok sel => do
      let (resolved, sets) ← lookUp tables sets sel
      let event := Event.selectorResolved token resolved (marks != 0)
      if resolved || marks != 0 then
        let next ← addTokens mode tables rest (any || resolved) sets
        .ok { next with events := event :: next.events }
      else .ok ⟨.error (.unknownCall token), sets, [event]⟩

theorem addTokens_eq (small : SmallTables tables) (mode : Mode) (tokens : List String) (any : Bool)
    (sets : List NumberSet) :
    addTokens mode tables tokens any sets = .ok (CallSpec.addTokens mode tables tokens any sets) := by
  induction tokens generalizing any sets with
  | nil => rfl
  | cons token rest ih =>
    unfold addTokens CallSpec.addTokens
    rcases Text.leading '?' token with ⟨marks, body⟩
    dsimp only
    cases Selector.parse body mode with
    | error e => rfl
    | ok sel =>
      cases sel with
      | none =>
        simp only [lookUp, ok_bind, ih]
        exact (apply_ite Except.ok _ _ _).symm
      | some sel =>
        simp only [lookUp, resolve_eq small, ok_bind, ih]
        exact (apply_ite Except.ok _ _ _).symm

/-- Adds a list of calls to sets, of which there has to be one for each table. -/
def addCalls (spec : String) (mode : Mode) (tables : List Table) (sets : List NumberSet) :
    Checked (Attempt (List NumberSet) Unit) := do
  assert (sets.length = tables.length)
  let (count, body) ← negations mode spec
  let sets := sets.map (·.invertTimes count)
  if body = "none" then .ok ⟨.ok (), sets, []⟩
  else if body = "all" then .ok ⟨.ok (), sets.map NumberSet.invert, []⟩
  else
    let done ← addTokens mode tables (Text.tokens ',' body) false sets
    .ok { done with result := CallSpec.verdict spec done.result }

theorem addCalls_eq (small : SmallTables tables) (spec : String) (mode : Mode) {sets : List NumberSet}
    (one : sets.length = tables.length) : addCalls spec mode tables sets = .ok (CallSpec.addTo spec mode tables sets) := by
  unfold addCalls CallSpec.addTo
  rw [assert_eq_ok (decide_eq_true one), ok_bind, negations_eq, ok_bind]
  dsimp only
  split
  · rfl
  · split
    · rfl
    · rw [addTokens_eq small, ok_bind]
      rcases CallSpec.addTokens mode tables _ false _ with ⟨_ | _ | _, sets', events⟩ <;> rfl

/-! ## Lists of numbers -/

def addRead (kind : NumberKind) (read : String → Checked (Option Nat)) :
    List String → NumberSet → Checked (Except ClauseError Unit × NumberSet)
  | [], set => .ok (.ok (), set)
  | token :: rest, set => do
    match ← read token with
    | some n =>
      let set ← add set n.toUInt32
      addRead kind read rest set
    | none => .ok (.error (.badNumber kind token), set)

/-- Adds a list of numbers to a set. -/
def addNumbers (spec : String) (kind : NumberKind) (read : String → Checked (Option Nat)) (mode : Mode)
    (set : NumberSet) : Checked (Except ClauseError Unit × NumberSet) := do
  let (count, body) ← negations mode spec
  let set := set.invertTimes count
  if body = "none" then .ok (.ok (), set)
  else if body = "all" then .ok (.ok (), set.invert)
  else
    match Text.tokens ',' body with
    | [] => .ok (.error (.badNumber kind spec), set)
    | tokens => addRead kind read tokens set

section Numbers

variable {read : String → Checked (Option Nat)} {resolve : String → Option Nat}

theorem addRead_eq (same : ∀ token, read token = .ok (resolve token)) (small : ∀ token n, resolve token = some n → n < 2 ^ 32)
    (kind : NumberKind) (tokens : List String) (set : NumberSet) :
    addRead kind read tokens set = .ok (NumberSpec.addTokens kind resolve tokens set) := by
  induction tokens generalizing set with
  | nil => rfl
  | cons token rest ih =>
    unfold addRead NumberSpec.addTokens
    rw [same, ok_bind]
    cases found : resolve token with
    | none => rfl
    | some n => simp only [add_eq, toNat_toUInt32 (small token n found), ok_bind, ih]

theorem addNumbers_eq (same : ∀ token, read token = .ok (resolve token))
    (small : ∀ token n, resolve token = some n → n < 2 ^ 32) (spec : String) (kind : NumberKind) (mode : Mode)
    (set : NumberSet) : addNumbers spec kind read mode set = .ok (NumberSpec.addTo spec kind resolve mode set) := by
  unfold addNumbers NumberSpec.addTo
  rw [negations_eq, ok_bind]
  dsimp only
  split
  · rfl
  · split
    · rfl
    · cases Text.tokens ',' (mode.negations spec).2 with
      | nil => rfl
      | cons token rest => exact addRead_eq same small kind (token :: rest) _

end Numbers

/-! ## Filters and injections -/

theorem number?_lt (token : String) (n : Nat) (read : Numeral.number? token = some n) : n < 2 ^ 32 := by
  have le := ((Numeral.number?_eq_some_iff token n).mp read).2
  omega

theorem signal_lt (token : String) (n : Nat) (read : Signal.parse? token = some n) : n < 2 ^ 32 := by
  unfold Signal.parse? at read
  split at read
  · have le := ((Numeral.upTo_eq_some_iff 255 token n).mp read).2
    omega
  · have range := Signal.range_of_named ((Signal.byName?_eq_some_iff token n).mp read)
    omega

def parseFilter (kind : FilterKind) (spec : String) (p : Personalities) (mode : Mode) :
    Checked (Except ClauseError Filter × List Event) :=
  match kind with
  | .syscall => do
    let done ← addCalls spec mode p.tables (p.tables.map fun _ => .empty)
    .ok (done.result.map fun _ => .syscall done.state, done.events)
  | .fd => do
    let (result, set) ← addNumbers spec .descriptor (fun token => .ok (Numeral.number? token)) mode .empty
    .ok (result.map fun _ => .fd set, [])
  | .path => .ok (.ok (.path (PathSet.empty.select spec)), [])

theorem parseFilter_eq {p : Personalities} (small : SmallTables p.tables) (kind : FilterKind) (spec : String)
    (mode : Mode) : parseFilter kind spec p mode = .ok (Filter.parse kind spec p mode) := by
  unfold parseFilter Filter.parse
  cases kind with
  | syscall =>
    have one : (p.tables.map fun _ => NumberSet.empty).length = p.tables.length := List.length_map _
    simp only [addCalls_eq small spec mode one, ok_bind]
  | fd => simp only [addNumbers_eq (fun _ => rfl) number?_lt, ok_bind]
  | path => rfl

/-- Reads one argument. Only a signal is looked up with a cut. -/
def withArgument (i : Injection) (token : String) (fault : Bool) : Checked (Option Injection) :=
  match Text.cut '=' token, fault with
  | some ("signal", value), false => do
    let found ← signal? value
    .ok ((found.filter fun n => 1 ≤ n && n ≤ Signal.maxSignal).map fun signal => { i with signal })
  | _, _ => .ok (i.withArgument? token fault)

theorem withArgument_eq (i : Injection) (token : String) (fault : Bool) :
    withArgument i token fault = .ok (i.withArgument? token fault) := by
  unfold withArgument
  split
  next value cut =>
    unfold Injection.withArgument?
    simp only [cut, signal?_eq, ok_bind]
  next => rfl

/-- Reads arguments up to the first that is refused. -/
def withArguments (fault : Bool) : List String → Injection → Checked (Option Injection)
  | [], i => .ok (some i)
  | token :: rest, i => do
    match ← withArgument i token fault with
    | some i => withArguments fault rest i
    | none => .ok none

theorem withArguments_eq (fault : Bool) (tokens : List String) (i : Injection) :
    withArguments fault tokens i = .ok (tokens.foldlM (fun i token => i.withArgument? token fault) i) := by
  induction tokens generalizing i with
  | nil => rfl
  | cons token rest ih =>
    unfold withArguments
    rw [withArgument_eq, ok_bind, List.foldlM_cons]
    cases i.withArgument? token fault with
    | none => rfl
    | some i => exact ih i

def parseInjection (args : Option String) (fault : Bool) (mode : Mode) : Checked (Option Injection) := do
  let tokens := (args.map (Text.tokens (Injection.delimiter mode))).getD []
  match ← withArguments fault tokens .default with
  | none => .ok none
  | some i =>
    if i.result = .unset ∧ i.signal = 0 then
      .ok (if fault then some { i with result := .error Errno.enosys } else none)
    else .ok (some i)

theorem parseInjection_eq (args : Option String) (fault : Bool) (mode : Mode) :
    parseInjection args fault mode = .ok (Injection.parse? args fault mode) := by
  unfold parseInjection Injection.parse?
  simp only [withArguments_eq, ok_bind]
  generalize ((args.map (Text.tokens (Injection.delimiter mode))).getD []).foldlM
    (fun i token => Injection.withArgument? i token fault) Injection.default = read
  cases read with
  | none => rfl
  | some i => exact (apply_ite Except.ok _ _ _).symm

/-- Whether an occurrence is injected into, from its distance to the first. -/
def firesOn (i : Injection) (occurrence : Nat) : Checked Bool :=
  if occurrence < i.first then .ok false
  else if occurrence = i.first then .ok true
  else if i.step = 0 then .ok false
  else do
    let distance ← sub occurrence i.first
    let left ← rem distance i.step
    .ok (left == 0)

theorem firesOn_eq (i : Injection) (occurrence : Nat) : firesOn i occurrence = .ok (i.firesOn occurrence) := by
  unfold firesOn Injection.firesOn
  split
  · rfl
  next reached =>
    split
    · rfl
    · by_cases once : i.step = 0
      · simp [once]
      · have later : i.first ≤ occurrence := Nat.le_of_not_lt reached
        simp [once, sub_eq_ok later, rem_eq_ok once]

end SyscallFilter.Checked

/-! ## Sets whose numbers fit -/

namespace SyscallFilter

/-- Every number that the set has a bit for takes 32 bits at most. -/
def NumberSet.Fits (s : NumberSet) : Prop := s.words ≤ 2 ^ 27

namespace NumberSet.Fits

variable {s : NumberSet}

theorem lt (fits : s.Fits) {n : Nat} (mem : n ∈ s.bits) : n < 2 ^ 32 := by
  have inside := s.fits n mem
  unfold Fits at fits
  omega

theorem addAll (fits : s.Fits) {ns : List Nat} (small : ∀ n ∈ ns, n < 2 ^ 32) : (s.addAll ns).Fits := by
  induction ns generalizing s with
  | nil => exact fits
  | cons n rest ih =>
    have first : (s.add n).Fits := by
      have lt := small n List.mem_cons_self
      show max s.words (n / 32 + 1) ≤ 2 ^ 27
      exact Nat.max_le.mpr ⟨fits, by omega⟩
    exact ih first fun k mem => small k (List.mem_cons_of_mem n mem)

theorem clear (fits : s.Fits) : s.clear.Fits := fits

theorem invertTimes (fits : s.Fits) (k : Nat) : (s.invertTimes k).Fits := by
  unfold Fits
  rwa [words_invertTimes]

end NumberSet.Fits

def Filter.sets : Filter → List NumberSet
  | .syscall sets => sets
  | .fd set => [set]
  | .path _ => []

def Filter.Fits (f : Filter) : Prop := ∀ s ∈ f.sets, s.Fits

theorem NumberSpec.fits_addTo {resolve : String → Option Nat} (small : ∀ token n, resolve token = some n → n < 2 ^ 32)
    (spec : String) (kind : NumberKind) (mode : Mode) {set : NumberSet} (fits : set.Fits) :
    (NumberSpec.addTo spec kind resolve mode set).2.Fits := by
  have read (tokens : List String) : ∀ n ∈ readable resolve tokens, n < 2 ^ 32 := by
    induction tokens with
    | nil => exact List.forall_mem_nil _
    | cons token rest ih =>
      unfold readable
      cases found : resolve token with
      | none => exact List.forall_mem_nil _
      | some n => exact List.forall_mem_cons.mpr ⟨small token n found, ih⟩
  have turned := fits.invertTimes (mode.negations spec).1
  rw [addTo_eq]
  split
  · exact turned
  · split
    · exact turned
    · split
      · exact turned
      · rw [addTokens_snd]
        exact turned.addAll (read _)

namespace CallSpec

variable {tables : List Table} {sets : List NumberSet}

theorem fits_resolve (small : Checked.SmallTables tables) (fits : ∀ s ∈ sets, s.Fits) (sel : Selector) :
    ∀ s ∈ (sel.resolve tables sets).2, s.Fits := by
  intro s mem
  have grown : s ∈ List.zipWith NumberSet.addAll sets (tables.map sel.numbers) := mem
  rw [← List.map_uncurry_zip_eq_zipWith] at grown
  obtain ⟨⟨before, ns⟩, pair, rfl⟩ := List.mem_map.mp grown
  obtain ⟨known, found⟩ := List.of_mem_zip pair
  obtain ⟨t, table, rfl⟩ := List.mem_map.mp found
  refine (fits before known).addAll fun n given => ?_
  exact Nat.lt_trans (Checked.lt_size_of_mem_numbers given) (small t table)

theorem fits_addTo (small : Checked.SmallTables tables) (fits : ∀ s ∈ sets, s.Fits) (spec : String) (mode : Mode) :
    ∀ s ∈ (addTo spec mode tables sets).state, s.Fits := by
  refine addTo_induction (P := fun sets => ∀ s ∈ sets, s.Fits) (fun k sets fits s mem => ?_)
    (fun sel _ fits => fits_resolve small fits sel) spec mode fits
  obtain ⟨before, known, rfl⟩ := List.mem_map.mp mem
  exact fits before known

end CallSpec

theorem exists_of_map_eq_ok {ε α β : Type} {r : Except ε α} {g : α → β} {b : β} (ok : r.map g = .ok b) :
    ∃ a, g a = b := by
  cases r with
  | error e => cases ok
  | ok a => exact ⟨a, Except.ok.inj ok⟩

theorem Filter.fits_parse {p : Personalities} (small : Checked.SmallTables p.tables) {kind : FilterKind} {spec : String}
    {mode : Mode} {f : Filter} (parsed : (Filter.parse kind spec p mode).1 = .ok f) : f.Fits := by
  have empty : NumberSet.empty.Fits := Nat.zero_le _
  cases kind with
  | syscall =>
    obtain ⟨_, rfl⟩ := exists_of_map_eq_ok parsed
    refine CallSpec.fits_addTo small (fun s mem => ?_) spec mode
    obtain ⟨_, -, rfl⟩ := List.mem_map.mp mem
    exact empty
  | fd =>
    obtain ⟨_, rfl⟩ := exists_of_map_eq_ok parsed
    exact List.forall_mem_singleton.mpr (NumberSpec.fits_addTo Checked.number?_lt spec .descriptor mode empty)
  | path =>
    cases parsed
    exact List.forall_mem_nil _

end SyscallFilter
