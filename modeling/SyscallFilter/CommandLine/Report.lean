import SyscallFilter.Engine

/-! # The report on an engine and on calls that were tried -/

namespace SyscallFilter

/-! ## JSON values and their text -/

inductive Json where
  | number (n : Nat)
  | text (s : String)
  | list (items : List Json)
  /-- Members in the order in which they are written. -/
  | record (members : List (String × Json))

namespace Json

def escapedChar (c : Char) : String :=
  match c with
  | '\x22' => "\\\x22"
  | '\\' => "\\\\"
  | '\x08' => "\\b"
  | '\x0C' => "\\f"
  | '\n' => "\\n"
  | '\x0D' => "\\r"
  | '\t' => "\\t"
  | c =>
    if c.toNat < 32 then
      "\\u00" ++ (if c.toNat < 16 then "0" else "") ++ String.ofList (Nat.toDigits 16 c.toNat)
    else String.singleton c

def quoted (s : String) : String := "\x22" ++ String.join (s.toList.map escapedChar) ++ "\x22"

def indent (depth : Nat) : String := String.ofList (List.replicate (2 * depth) ' ')

/-- Parts between brackets, one on each line; nothing between them if there are no parts. -/
def bracket (opening closing : String) (depth : Nat) (parts : List String) : String :=
  if parts.isEmpty then opening ++ closing
  else
    opening ++ "\n" ++
      String.intercalate ",\n" (parts.map fun part => indent (depth + 1) ++ part) ++
      "\n" ++ indent depth ++ closing

mutual

/-- The text over several lines, two blanks for each level that it is inside of. -/
def pretty (depth : Nat) : Json → String
  | number n => toString n
  | text s => quoted s
  | list items => bracket "[" "]" depth (prettyItems (depth + 1) items)
  | record members => bracket "\x7B" "\x7D" depth (prettyMembers (depth + 1) members)

def prettyItems (depth : Nat) : List Json → List String
  | [] => []
  | j :: rest => j.pretty depth :: prettyItems depth rest

def prettyMembers (depth : Nat) : List (String × Json) → List String
  | [] => []
  | (name, j) :: rest => (quoted name ++ ": " ++ j.pretty depth) :: prettyMembers depth rest

end

end Json

/-! ## Reports -/

/-- What became of one call. -/
structure Check where
  name : String
  number : Nat
  /-- The actions that applied, in order. -/
  fired : List (ActionKind × Option Injection)
  decisions : Decisions
  deriving DecidableEq, Repr

structure Report where
  defaults : Decisions
  actions : List Action
  checks : List Check

/-! ## Text -/

def Forced.label : Forced → String
  | unset => "Unset"
  | error errno => "Error(" ++ toString errno ++ ")"
  | retval value => "Retval(" ++ toString value ++ ")"

/-- The names of decisions, with a word for no decision. -/
def Decisions.label (d : Decisions) : String :=
  match d.toList with
  | [] => "none"
  | names => String.intercalate "|" (names.map Flag.name)

def Injection.line (i : Injection) : String :=
  "    first=" ++ toString i.first ++ " step=" ++ toString i.step ++ " result=" ++ i.result.label ++
    " signal=" ++ toString i.signal ++ "\n"

def Action.line (a : Action) : String :=
  "#" ++ toString a.id ++ " " ++ a.kind.name ++ " (priority " ++ toString a.kind.priority ++ "): " ++
    a.condition.text ++ " [" ++ String.intercalate ", " (a.filters.map (·.kind.name)) ++ "]\n" ++
    (a.data.map Injection.line).getD ""

def Check.line (c : Check) : String :=
  c.name ++ " (" ++ toString c.number ++ "): fired [" ++
    String.intercalate ", " (c.fired.map (·.1.name)) ++ "], flags " ++ c.decisions.label ++ "\n"

def Report.text (r : Report) : String :=
  "default actions: " ++ r.defaults.label ++ "\n" ++ String.join (r.actions.map Action.line) ++
    String.join (r.checks.map Check.line)

/-! ## JSON -/

def Forced.json : Forced → Json
  | unset => .text "unset"
  | error errno => .record [("error", .number errno)]
  | retval value => .record [("retval", .number value)]

def Injection.json : Option Injection → Json
  | none => .record [("type", .text "none")]
  | some i =>
    .record [("type", .text "inject"), ("first", .number i.first), ("step", .number i.step),
      ("result", i.result.json), ("signal", .number i.signal)]

def Action.json (a : Action) : Json :=
  .record [("id", .number a.id), ("action", .text a.kind.name), ("priority", .number a.kind.priority),
    ("expression", .text a.condition.text),
    ("filters", .list (a.filters.map fun f => .text f.kind.name)), ("data", Injection.json a.data)]

def Check.json (c : Check) : Json :=
  .record [("syscall", .text c.name), ("number", .number c.number),
    ("fired", .list (c.fired.map fun (kind, data) =>
      .record [("action", .text kind.name), ("data", Injection.json data)])),
    ("qual", .text c.decisions.text)]

def Report.json (r : Report) : Json :=
  .record [("default_flags", .text r.defaults.text), ("actions", .list (r.actions.map Action.json)),
    ("checks", .list (r.checks.map Check.json))]

end SyscallFilter
