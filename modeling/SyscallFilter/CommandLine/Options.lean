import SyscallFilter.Text

/-! # The options of the command line -/

namespace SyscallFilter.CommandLine

inductive Format where
  | text
  | json
  deriving DecidableEq, Repr

structure Options where
  expressions : List String := []
  paths : List String := []
  config : Option String := none
  /-- The calls to try. -/
  checks : List String := []
  /-- The first argument of the calls to try. -/
  fd : Option Int := none
  /-- The path argument of the calls to try. -/
  withPath : Option String := none
  /-- Text unless asked for. -/
  format : Option Format := none
  debug : Bool := false
  deriving DecidableEq, Repr

/-- What a command line asks for. -/
inductive Invocation where
  | run (o : Options)
  | shortHelp
  | longHelp
  | version
  /-- The command line is not understood. -/
  | refused
  deriving DecidableEq, Repr

/-! ## Values -/

/-- Options with a value. -/
inductive ValueOption where
  | expr
  | path
  | config
  | check
  | fd
  | withPath
  | format
  deriving DecidableEq, Repr

def ValueOption.longNames : List (String × ValueOption) :=
  [("expr", expr), ("path", path), ("config", config), ("check", check), ("fd", fd),
   ("with-path", withPath), ("format", format)]

/-- A number of 32 bits with a sign in front or none. -/
def int32? (s : String) : Option Int :=
  let digits? (cs : List Char) : Option Int :=
    if cs ≠ [] && cs.all Char.isDigit then
      some (cs.foldl (fun (n : Int) c => 10 * n + (c.toNat - 48)) 0)
    else none
  let n? : Option Int :=
    match s.toList with
    | '-' :: cs => (digits? cs).map (- ·)
    | '+' :: cs => digits? cs
    | cs => digits? cs
  n?.filter fun n => -2147483648 ≤ n && n ≤ 2147483647

/-- Takes the value of an option. Lists grow; any other option is given once only. Paths are not empty. -/
def Options.take? (o : Options) (option : ValueOption) (value : String) : Option Options :=
  match option with
  | .expr => some { o with expressions := o.expressions ++ [value] }
  | .check => some { o with checks := o.checks ++ [value] }
  | .path => if value = "" then none else some { o with paths := o.paths ++ [value] }
  | .config => if o.config.isSome || value = "" then none else some { o with config := some value }
  | .withPath =>
    if o.withPath.isSome || value = "" then none else some { o with withPath := some value }
  | .fd => if o.fd.isSome then none else (int32? value).map fun n => { o with fd := some n }
  | .format =>
    if o.format.isSome then none
    else
      match value with
      | "text" => some { o with format := some .text }
      | "json" => some { o with format := some .json }
      | _ => none

/-! ## Words -/

/-- What one word of a command line is. -/
inductive Word where
  | option (o : ValueOption) (attached : Option String)
  | debug
  | shortHelp
  | longHelp
  | version
  /-- Two dashes: no options follow. -/
  | endOfOptions
  | other
  deriving DecidableEq, Repr

/-- A word of two dashes and a name, with a value after an equals sign or without. -/
def Word.ofLong (body : String) : Word :=
  let (name, attached) :=
    match Text.cut '=' body with
    | some (name, value) => (name, some value)
    | none => (body, none)
  match name, attached with
  | "debug", none => .debug
  | "help", none => .longHelp
  | "version", none => .version
  | name, attached =>
    match ValueOption.longNames.find? (·.1 = name) with
    | some (_, o) => .option o attached
    | none => .other

/-- A word of one dash and letters. What follows a letter with a value is the value, with an equals sign
before it or without. -/
def Word.ofShort (letter : Char) (rest : List Char) : Word :=
  let attached : Option String :=
    match rest with
    | [] => none
    | '=' :: value => some (String.ofList value)
    | value => some (String.ofList value)
  match letter with
  | 'e' => .option .expr attached
  | 'P' => .option .path attached
  | 'h' => .shortHelp
  | 'V' => .version
  | _ => .other

def Word.ofString (word : String) : Word :=
  match word.toList with
  | ['-', '-'] => .endOfOptions
  | '-' :: '-' :: body => ofLong (String.ofList body)
  | '-' :: letter :: rest => ofShort letter rest
  | _ => .other

/-- Whether a word can be the value of the option before it. A dash begins an option, unless it stands alone
or a descriptor follows it. -/
def ValueOption.accepts (o : ValueOption) (word : String) : Bool :=
  match word.toList with
  | '-' :: c :: cs => o = .fd && (c :: cs).all Char.isDigit
  | _ => true

/-! ## Command lines -/

/-- Reads words from the left. Help and version end it where they stand; no word stands for itself. -/
def read (o : Options) : List String → Invocation
  | [] => .run o
  | word :: rest =>
    match Word.ofString word with
    | .shortHelp => .shortHelp
    | .longHelp => .longHelp
    | .version => .version
    | .debug => if o.debug then .refused else read { o with debug := true } rest
    | .endOfOptions => if rest.isEmpty then .run o else .refused
    | .other => .refused
    | .option option (some value) =>
      match o.take? option value with
      | some o => read o rest
      | none => .refused
    | .option option none =>
      match rest with
      | [] => .refused
      | value :: rest =>
        if option.accepts value then
          match o.take? option value with
          | some o => read o rest
          | none => .refused
        else .refused

def parse (words : List String) : Invocation := read {} words

/-! ## Help -/

def versionText : String := "sysqual 0.1.0\n"

/-- Every option: how it is spelt, what it does, and what else there is to say. -/
def optionHelp : List (String × String × List String) :=
  [("-e, --expr <EXPR>",
    "Qualifier clause (e.g., -e trace=open,read or -e fault=openat:error=ENOENT)", []),
   ("-P, --path <PATH>", "Trace only syscalls touching PATH", []),
   ("    --config <FILE>", "Load qualifier clauses from a TOML file (applied before -e)", []),
   ("    --check <SYSCALL>",
    "Simulate dispatch of SYSCALL (name or number) and report fired actions", []),
   ("    --fd <FD>", "First argument (descriptor) of simulated calls", []),
   ("    --with-path <PATH>", "Decoded path argument of simulated calls", []),
   ("    --format <FORMAT>", "Output format (text or json)",
    ["Possible values:",
     "- text: Human-readable text format (default)", "- json: JSON format for machine parsing",
     "", "[default: text]"]),
   ("    --debug", "Enable debug tracing output to stderr", [])]

def helpHead : String :=
  "Resolve strace-style qualifier expressions into filter actions\n\nUsage: sysqual [OPTIONS]\n\nOptions:\n"

/-- One line for each option, with the descriptions in a column. -/
def shortHelpText : String :=
  let line (spelling text : String) :=
    "  " ++ spelling ++ String.ofList (List.replicate (24 - spelling.length) ' ') ++ text ++ "\n"
  let note (spelling : String) :=
    if spelling = "    --format <FORMAT>" then " [default: text] [possible values: text, json]" else ""
  helpHead ++
    String.join (optionHelp.map fun (spelling, text, _) => line spelling (text ++ note spelling)) ++
    line "-h, --help" "Print help (see more with '--help')" ++
    line "-V, --version" "Print version"

/-- A paragraph for each option. -/
def longHelpText : String :=
  let indent := "          "
  let entry (spelling text : String) (more : List String) :=
    "  " ++ spelling ++ "\n" ++ indent ++ text ++ "\n" ++ (if more.isEmpty then "" else "\n") ++
      String.join (more.map fun l => indent ++ l ++ "\n")
  let entries := optionHelp.map (fun (spelling, text, more) => entry spelling text more) ++
    [entry "-h, --help" "Print help (see a summary with '-h')" [],
     entry "-V, --version" "Print version" []]
  helpHead ++ String.intercalate "\n" entries

end SyscallFilter.CommandLine
