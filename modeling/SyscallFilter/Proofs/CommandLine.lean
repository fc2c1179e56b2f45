import SyscallFilter.CommandLine
import SyscallFilter.Proofs.Dispatch
import SyscallFilter.Proofs.Run
import SyscallFilter.Proofs.Table
import SyscallFilter.Proofs.Text

/-!
# A command line reports everything or nothing

The file comes first, then the clauses, then the calls to try, and the first thing that is wrong is all that is told.
The calls are tried on one engine, which holds results of the calls before; what is told of a call is the same as if it
were tried alone.
-/

namespace SyscallFilter.CommandLine

/-! ## Words for calls -/

/-- A word that is not read as a numeral. One that spells a number past the limit is left to be a name. -/
def NoNumeral (word : String) : Prop := ¬∃ n, Numeral.Spells word n ∧ n ≤ 2147483647

theorem number?_eq_none_iff (word : String) : Numeral.number? word = none ↔ NoNumeral word := by
  unfold NoNumeral
  rw [Option.eq_none_iff_forall_ne_some, not_exists]
  exact forall_congr' fun n => not_congr (Numeral.number?_eq_some_iff word n)

instance (word : String) : Decidable (NoNumeral word) := decidable_of_iff _ (number?_eq_none_iff word)

theorem resolveCheck_of_spells {word : String} {n : Nat} (t : Table) (spells : Numeral.Spells word n)
    (le : n ≤ 2147483647) : resolveCheck t word = some ((t.nameOf? n).getD ("syscall_" ++ toString n), n) := by
  unfold resolveCheck
  rw [(Numeral.number?_eq_some_iff word n).mpr ⟨spells, le⟩]

theorem resolveCheck_of_name {word : String} (t : Table) (name : NoNumeral word) :
    resolveCheck t word = (t.numberOf? word).map (word, ·) := by
  unfold resolveCheck
  rw [(number?_eq_none_iff word).mpr name]

/-- A word stands for a call: it is a numeral, or the name of an allocated number. -/
def Known (t : Table) (word : String) : Prop :=
  (∃ n, Numeral.Spells word n ∧ n ≤ 2147483647) ∨ ∃ e ∈ t.entries, e.name = some word

theorem resolveCheck_eq_none_iff (t : Table) (word : String) : resolveCheck t word = none ↔ ¬Known t word := by
  unfold Known
  rw [not_or]
  by_cases name : NoNumeral word
  · rw [resolveCheck_of_name t name, Option.map_eq_none_iff, Table.numberOf?_eq_none_iff]
    simp only [not_exists, not_and]
    exact ⟨fun unnamed => ⟨fun n spells le => name ⟨n, spells, le⟩, unnamed⟩, And.right⟩
  · obtain ⟨n, spells, le⟩ := not_not.mp name
    rw [resolveCheck_of_spells t spells le]
    exact ⟨nofun, fun unknown => absurd ⟨n, spells, le⟩ unknown.1⟩

instance (t : Table) (word : String) : Decidable (Known t word) :=
  decidable_of_iff ((resolveCheck t word).isSome = true) <| by
    rw [Option.isSome_iff_ne_none, ne_eq, resolveCheck_eq_none_iff, not_not]

/-! ## Calls that are tried one after another -/

/-- What is told of a word that is tried alone. -/
def tryWord (o : Options) (t : Table) (e : Engine) (word : String) : Except Failure Check :=
  match resolveCheck t word with
  | none => .error (.unknownCheck word)
  | some (name, number) =>
    let r := (e.dispatch recorder [] (tryCall o number)).2
    .ok ⟨name, number, r.state, r.call.decisions⟩

variable {o o' : Options} {t : Table} {e e' : Engine} {words : List String}

theorem tryWord_of_unknown {word : String} (unknown : ¬Known t word) :
    tryWord o t e word = .error (.unknownCheck word) := by
  unfold tryWord
  rw [(resolveCheck_eq_none_iff t word).mpr unknown]

theorem tryWord_of_known {word : String} (known : Known t word) : ∃ check, tryWord o t e word = .ok check := by
  unfold tryWord
  cases resolved : resolveCheck t word with
  | none => exact absurd known ((resolveCheck_eq_none_iff t word).mp resolved)
  | some call => exact ⟨_, rfl⟩

theorem tryWord_alike (alike : e.Alike e') (room : e.Roomy) (room' : e'.Roomy) (word : String) :
    tryWord o t e' word = tryWord o t e word := by
  unfold tryWord
  cases resolveCheck t word with
  | none => rfl
  | some call =>
    obtain ⟨state, decided⟩ := e.dispatch_of_roomy room recorder [] (tryCall o call.2)
    obtain ⟨state', decided'⟩ := e'.dispatch_of_roomy room' recorder [] (tryCall o call.2)
    rw [alike.personalities, alike.actions, alike.enter] at state' decided'
    simp only [state, state', decided, decided']

theorem runChecks_eq_mapM (alike : e.Alike e') (room : e.Roomy) (room' : e'.Roomy) :
    (runChecks o t e' words).1 = words.mapM (tryWord o t e) := by
  induction words generalizing e' with
  | nil => rfl
  | cons word rest ih =>
    rw [List.mapM_cons, ← tryWord_alike alike room room' word]
    unfold runChecks tryWord
    cases resolveCheck t word with
    | none => rfl
    | some call =>
      have later := ih (alike.trans (e'.alike_dispatch recorder [] (tryCall o call.2)))
        (e'.roomy_dispatch room' recorder [] (tryCall o call.2))
      simp only [later]
      rfl

theorem mapM_tryWord_of_known (known : ∀ word ∈ words, Known t word) :
    ∃ checks, words.mapM (tryWord o t e) = .ok checks ∧
      List.Forall₂ (fun word check => tryWord o t e word = .ok check) words checks := by
  induction words with
  | nil => exact ⟨[], rfl, .nil⟩
  | cons word rest ih =>
    obtain ⟨check, first⟩ := tryWord_of_known (o := o) (e := e) (known word List.mem_cons_self)
    obtain ⟨checks, later, each⟩ := ih fun w mem => known w (List.mem_cons_of_mem word mem)
    refine ⟨check :: checks, ?_, .cons first each⟩
    rw [List.mapM_cons, first, later]
    rfl

theorem mapM_tryWord_of_unknown {before after : List String} {word : String} (known : ∀ w ∈ before, Known t w)
    (unknown : ¬Known t word) :
    (before ++ word :: after).mapM (tryWord o t e) = .error (.unknownCheck word) := by
  obtain ⟨checks, tried, -⟩ := mapM_tryWord_of_known (o := o) (e := e) known
  rw [List.mapM_append, tried, List.mapM_cons, tryWord_of_unknown unknown]
  rfl

/-! ## Reports -/

/-- The configuration that the options start from: that of their file, if they name one. -/
def Loaded (o : Options) (readFile : String → Except String String) (config : Config) : Prop :=
  match o.config with
  | none => config = .empty
  | some path => ∃ text, readFile path = .ok text ∧ Config.File.parse? text = some config

variable {readFile : String → Except String String} {config : Config}

theorem loadConfig_of_loaded (loaded : Loaded o readFile config) : loadConfig o readFile = .ok config := by
  unfold Loaded at loaded
  unfold loadConfig
  cases named : o.config with
  | none =>
    rw [named] at loaded
    simp only [loaded]
  | some path =>
    rw [named] at loaded
    obtain ⟨text, read, parsed⟩ := loaded
    simp only [read, parsed]

theorem report_of_unloaded {f : Failure} (failed : loadConfig o readFile = .error f) :
    report o readFile = (.error f, []) := by
  unfold report
  rw [failed]

theorem report_of_refused {e : ClauseError} (loaded : Loaded o readFile config)
    (refused : ((config.extend o.expressions o.paths).build .native).1 = .error e) :
    (report o readFile).1 = .error (.badClause e) := by
  unfold report
  simp only [loadConfig_of_loaded loaded, refused]

theorem report_of_built {engine : Engine} (loaded : Loaded o readFile config)
    (built : ((config.extend o.expressions o.paths).build .native).1 = .ok engine) (room : engine.Roomy) :
    (report o readFile).1 =
      (o.checks.mapM (tryWord o .native engine)).map (⟨engine.defaults, engine.actions, ·⟩) := by
  have tried : (runChecks o .native engine o.checks).1 = o.checks.mapM (tryWord o .native engine) :=
    runChecks_eq_mapM ⟨rfl, rfl, rfl, rfl⟩ room room
  unfold report
  simp only [loadConfig_of_loaded loaded, built, tried]

theorem exists_built (accepted : ∀ text ∈ config.expressions ++ o.expressions, Config.verdict .native text = .ok ()) :
    ∃ engine, ((config.extend o.expressions o.paths).build .native).1 = .ok engine ∧ engine.Roomy :=
  ⟨_, Config.build_of_accepted accepted, Builder.finish_roomy _⟩

theorem report_of_known (loaded : Loaded o readFile config)
    (accepted : ∀ text ∈ config.expressions ++ o.expressions, Config.verdict .native text = .ok ())
    (known : ∀ word ∈ o.checks, Known .native word) :
    ∃ r, (report o readFile).1 = .ok r ∧
      List.Forall₂ (fun word check =>
        (report { o with checks := [word] } readFile).1 = .ok { r with checks := [check] }) o.checks r.checks := by
  obtain ⟨engine, built, room⟩ := exists_built (o := o) accepted
  obtain ⟨checks, tried, each⟩ := mapM_tryWord_of_known (o := o) (e := engine) known
  refine ⟨⟨engine.defaults, engine.actions, checks⟩, ?_, each.imp fun word check alone => ?_⟩
  · rw [report_of_built loaded built room, tried]
    rfl
  · rw [report_of_built (o := { o with checks := [word] }) loaded built room, List.mapM_cons, List.mapM_nil]
    have same : tryWord { o with checks := [word] } .native engine word = .ok check := alone
    rw [same]
    rfl

theorem runChecks_congr (same : ∀ number, tryCall o' number = tryCall o number) :
    runChecks o' t e words = runChecks o t e words := by
  induction words generalizing e with
  | nil => rfl
  | cons word rest ih =>
    unfold runChecks
    simp only [same, ih]

/-- Options with the clauses and paths of a configuration before their own, and no file. -/
def Options.join (o : Options) (config : Config) : Options :=
  { o with config := none, expressions := config.expressions ++ o.expressions, paths := config.paths ++ o.paths }

theorem report_join (loaded : Loaded o readFile config) (other : String → Except String String) :
    report (o.join config) other = report o readFile := by
  have empty : loadConfig (o.join config) other = .ok .empty := rfl
  have extended : Config.empty.extend (o.join config).expressions (o.join config).paths =
      config.extend o.expressions o.paths := rfl
  have tried (e : Engine) : runChecks (o.join config) .native e (o.join config).checks =
      runChecks o .native e o.checks := runChecks_congr fun _ => rfl
  unfold report
  simp only [loadConfig_of_loaded loaded, empty, extended, tried]

/-! ## The whole run -/

/-- What is shown of the events of a run. -/
def shownLog (w : Wording) (o : Options) (logSetting : Option String) (events : List Event) : String :=
  String.join ((events.filter (LogFilter.choose o.debug logSetting).shows).map w.logLine)

variable {w : Wording} {given : List String} {logSetting : Option String}

theorem run_of_failed {f : Failure} (parsed : parse given = .run o) (failed : (report o readFile).1 = .error f) :
    run w given logSetting readFile = ⟨f.code, "", shownLog w o logSetting (report o readFile).2 ++ f.text w⟩ := by
  unfold run
  simp only [parsed, failed]
  rfl

theorem run_of_reported {r : Report} (parsed : parse given = .run o) (reported : (report o readFile).1 = .ok r) :
    run w given logSetting readFile =
      ⟨0, Report.render r (o.format.getD .text), shownLog w o logSetting (report o readFile).2⟩ := by
  unfold run
  simp only [parsed, reported]
  rfl

theorem run_of_unloaded {f : Failure} (parsed : parse given = .run o) (failed : loadConfig o readFile = .error f) :
    run w given logSetting readFile = ⟨f.code, "", f.text w⟩ := by
  have outcome : run w given logSetting readFile = _ :=
    run_of_failed parsed (congrArg Prod.fst (report_of_unloaded failed))
  rw [report_of_unloaded failed] at outcome
  exact outcome.trans (congrArg (Output.mk f.code "") (String.empty_append))

/-- What a run prints, case by case. A file that cannot be used comes first, then the first clause that is refused, then
the first word that stands for no call, and with each of them nothing is reported. Otherwise every word is reported, as
it is when it is tried alone. The file can as well be given as options. -/
theorem run_all_or_nothing (w : Wording) (parsed : parse given = .run o) (logSetting : Option String)
    (readFile : String → Except String String) :
    let out := run w given logSetting readFile
    let log := shownLog w o logSetting (report o readFile).2
    let answer (text : String) := ((Builder.new .native).qualify text).result
    (∀ path reason, o.config = some path → readFile path = .error reason →
      out = ⟨1, "", (Failure.unreadable path reason).text w⟩) ∧
    (∀ path text, o.config = some path → readFile path = .ok text → Config.File.parse? text = none →
      out = ⟨1, "", (Failure.badFile text).text w⟩) ∧
    ∀ config, Loaded o readFile config →
      let texts := config.expressions ++ o.expressions
      (∀ before text after e, texts = before ++ text :: after → (∀ t ∈ before, answer t = .ok ()) →
        answer text = .error e → out = ⟨2, "", log ++ (Failure.badClause e).text w⟩) ∧
      ((∀ text ∈ texts, answer text = .ok ()) →
        (∀ before word after, o.checks = before ++ word :: after → (∀ earlier ∈ before, Known .native earlier) →
          ¬Known .native word → out = ⟨1, "", log ++ (Failure.unknownCheck word).text w⟩) ∧
        ((∀ word ∈ o.checks, Known .native word) →
          ∃ r, (report o readFile).1 = .ok r ∧ out = ⟨0, Report.render r (o.format.getD .text), log⟩ ∧
            List.Forall₂ (fun word check =>
              (report { o with checks := [word] } readFile).1 = .ok { r with checks := [check] })
              o.checks r.checks)) ∧
      ∀ other, report (o.join config) other = report o readFile ∧
        ∀ given', parse given' = .run (o.join config) → run w given' logSetting other = out := by
  intro out log answer
  have each (text : String) : answer text = Config.verdict .native text := Config.qualify_result (.new .native) text
  simp only [each]
  refine ⟨?_, ?_, ?_⟩
  · intro path reason named unread
    have failed : loadConfig o readFile = .error (.unreadable path reason) := by
      unfold loadConfig
      simp only [named, unread]
    exact run_of_unloaded parsed failed
  · intro path text named read unparsed
    have failed : loadConfig o readFile = .error (.badFile text) := by
      unfold loadConfig
      simp only [named, read, unparsed]
    exact run_of_unloaded parsed failed
  · intro config loaded
    refine ⟨?_, ?_, ?_⟩
    · intro before text after e split accepted refused
      have stopped := Config.build_of_refused (c := config.extend o.expressions o.paths) split accepted refused
      exact run_of_failed parsed (report_of_refused loaded stopped)
    · intro accepted
      refine ⟨?_, ?_⟩
      · intro before word after split known unknown
        obtain ⟨engine, built, room⟩ := exists_built (o := o) accepted
        have reported := report_of_built loaded built room
        rw [split, mapM_tryWord_of_unknown known unknown] at reported
        exact run_of_failed parsed reported
      · intro known
        obtain ⟨r, reported, alone⟩ := report_of_known loaded accepted known
        exact ⟨r, reported, run_of_reported parsed reported, alone⟩
    · intro other
      have same := report_join loaded other
      refine ⟨same, ?_⟩
      intro given' parsed'
      unfold out run
      simp only [parsed, parsed', same]
      rfl

theorem run_all_or_nothing_unknown_check :
    let given := ["-e", "trace=read", "--check", "7", "--check", "close", "--check", "clos"]
    let o : Options := { expressions := ["trace=read"], checks := ["7", "close", "clos"] }
    let readFile (_ : String) : Except String String := .error "No such file or directory (os error 2)"
    parse given = .run o ∧ Loaded o readFile .empty ∧
      run .plain given none readFile =
        ⟨1, "", shownLog .plain o none (report o readFile).2 ++ "sysqual: unknown syscall 'clos' for --check\n"⟩ := by
  intro given o readFile
  have parsed : parse given = .run o := by decide +kernel
  have loaded : Loaded o readFile .empty := rfl
  have accepted : ∀ text ∈ ["trace=read"], ((Builder.new .native).qualify text).result = .ok () := by decide +kernel
  have known : ∀ word ∈ ["7", "close"], Known .native word := by decide +kernel
  have unknown : ¬Known .native "clos" := by decide +kernel
  obtain ⟨-, -, outcome⟩ := run_all_or_nothing .plain parsed none readFile
  obtain ⟨-, tried, -⟩ := outcome .empty loaded
  exact ⟨parsed, loaded, (tried accepted).1 ["7", "close"] "clos" [] rfl known unknown⟩

end SyscallFilter.CommandLine
