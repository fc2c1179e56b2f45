import SyscallFilter.CommandLine.Log
import SyscallFilter.CommandLine.Options
import SyscallFilter.CommandLine.Report
import SyscallFilter.Config
import SyscallFilter.Table.Native

/-! # What a command line prints -/

namespace SyscallFilter.CommandLine

/-! ## What goes wrong -/

/-- Texts that are worded elsewhere: what is said of words that are no command line, how an event is shown, why a
pattern is not well formed, and why the text of a configuration file is not. -/
structure Wording where
  usage : List String → String
  logLine : Event → String
  patternCause : String → String
  fileCause : String → String

/-- Events without colours, and one text for everything that is not well formed. -/
def Wording.plain : Wording where
  usage _ := "error: the command line is not understood\n\nFor more information, try '--help'.\n"
  logLine := Event.logLine
  patternCause _ := "not well formed"
  fileCause _ := "not well formed"

/-- What can go wrong after the options are read. -/
inductive Failure where
  /-- The system says why. -/
  | unreadable (path reason : String)
  | badFile (text : String)
  | badClause (e : ClauseError)
  | unknownCheck (name : String)
  deriving DecidableEq, Repr

namespace Failure

def code : Failure → Nat
  | badClause _ => 2
  | unreadable .. | badFile _ | unknownCheck _ => 1

def message (w : Wording) : Failure → String
  | unreadable path reason => "Failed to read " ++ path ++ ": " ++ reason
  | badFile text => "Failed to parse TOML: " ++ w.fileCause text
  | badClause e => e.message w.patternCause
  | unknownCheck name => "unknown syscall '" ++ name ++ "' for --check"

/-- The line that ends the run. -/
def text (w : Wording) (f : Failure) : String := "sysqual: " ++ f.message w ++ "\n"

end Failure

structure Output where
  code : Nat
  stdout : String
  stderr : String
  deriving DecidableEq, Repr

/-! ## Trying calls -/

/-- The name and number of a call to try. A number without a name gets one. -/
def resolveCheck (t : Table) (word : String) : Option (String × Nat) :=
  match Numeral.number? word with
  | some n => some ((t.nameOf? n).getD ("syscall_" ++ toString n), n)
  | none => (t.numberOf? word).map fun n => (word, n)

/-- The call that is tried, with the arguments that the options give. -/
def tryCall (o : Options) (number : Nat) : Call :=
  let c := Call.new 0 number
  let c :=
    match o.fd with
    | some fd => { c with args := c.args.set 0 (Int64.ofInt fd).toUInt64 }
    | none => c
  { c with paths := o.withPath.toList }

/-- Notes what fired. -/
def recorder : Handler (List (ActionKind × Option Injection)) :=
  fun fired c kind data => (fired ++ [(kind, data)], c)

/-- Tries calls in order, up to the first that is unknown. The engine is the one that the calls before have
left. -/
def runChecks (o : Options) (t : Table) :
    Engine → List String → Except Failure (List Check) × List Event
  | _, [] => (.ok [], [])
  | e, word :: rest =>
    match resolveCheck t word with
    | none => (.error (.unknownCheck word), [])
    | some (name, number) =>
      let (e, r) := e.dispatch recorder [] (tryCall o number)
      let (checks, events) := runChecks o t e rest
      (checks.map (⟨name, number, r.state, r.call.decisions⟩ :: ·), r.events ++ events)

/-! ## The whole run -/

/-- The configuration of the file that the options name, or an empty one. -/
def loadConfig (o : Options) (readFile : String → Except String String) : Except Failure Config :=
  match o.config with
  | none => .ok .empty
  | some path =>
    match readFile path with
    | .error reason => .error (.unreadable path reason)
    | .ok text =>
      match Config.File.parse? text with
      | some c => .ok c
      | none => .error (.badFile text)

/-- The report that the options ask for, or the first thing that is wrong: the file, then the clauses, then
the calls. -/
def report (o : Options) (readFile : String → Except String String) :
    Except Failure Report × List Event :=
  match loadConfig o readFile with
  | .error f => (.error f, [])
  | .ok config =>
    let (built, events) := (config.extend o.expressions o.paths).build .native
    match built with
    | .error e => (.error (.badClause e), events)
    | .ok engine =>
      let (checks, more) := runChecks o .native engine o.checks
      (checks.map fun checks => ⟨engine.defaults, engine.actions, checks⟩, events ++ more)

def Report.render (r : Report) : Format → String
  | .text => r.text
  | .json => r.json.pretty 0 ++ "\n"

/-- What a command line prints, given the log setting of the environment and the files. Nothing is reported
unless everything is in order. -/
def run (w : Wording) (words : List String) (logSetting : Option String)
    (readFile : String → Except String String) : Output :=
  match parse words with
  | .refused => ⟨2, "", w.usage words⟩
  | .shortHelp => ⟨0, shortHelpText, ""⟩
  | .longHelp => ⟨0, longHelpText, ""⟩
  | .version => ⟨0, versionText, ""⟩
  | .run o =>
    let (result, events) := report o readFile
    let filter := LogFilter.choose o.debug logSetting
    let log := String.join ((events.filter filter.shows).map w.logLine)
    match result with
    | .ok r => ⟨0, Report.render r (o.format.getD .text), log⟩
    | .error f => ⟨f.code, "", log ++ f.text w⟩

end SyscallFilter.CommandLine
