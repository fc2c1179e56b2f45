import SyscallFilter.Clause

/-! # Configurations: clauses and paths -/

namespace SyscallFilter

structure Config where
  /-- Clauses, in the order in which they are read. -/
  expressions : List String
  paths : List String
  deriving DecidableEq, Repr

namespace Config

def empty : Config := ⟨[], []⟩

/-- More clauses and paths after those there are. -/
def extend (c : Config) (expressions paths : List String) : Config :=
  ⟨c.expressions ++ expressions, c.paths ++ paths⟩

/-- Reads clauses up to the first that is refused. -/
def qualifyAll : Builder → List String → Attempt Builder Unit
  | b, [] => ⟨.ok (), b, []⟩
  | b, text :: rest =>
    let first := b.qualify text
    match first.result with
    | .error _ => first
    | .ok () =>
      let next := qualifyAll first.state rest
      { next with events := first.events ++ next.events }

/-- The engine for a configuration: all clauses, then all paths. -/
def build (c : Config) (p : Personalities) : Except ClauseError Engine × List Event :=
  let read := qualifyAll (.new p) c.expressions
  match read.result with
  | .error e => (.error e, read.events)
  | .ok () =>
    let (engine, events) := (c.paths.foldl Builder.tracePath read.state).finish
    (.ok engine, read.events ++ events)

end Config

end SyscallFilter

/-! ## Configuration files

A file is TOML with at most the keys `expressions` and `paths`, each a list of texts. Any other key, any
table and any other value is refused, so only this part of TOML is read. -/

namespace SyscallFilter.Config.File

/-! ### Characters -/

def isBlank (c : Char) : Bool := c = ' ' || c = '\t'

def isBareKey (c : Char) : Bool := c.isAlphanum || c = '_' || c = '-'

/-- Characters of comments: no control characters but the tab. -/
def isCommentChar (c : Char) : Bool := c = '\t' || (' ' ≤ c && c ≤ '~') || '\x80' ≤ c

def isBasicChar (c : Char) : Bool := isCommentChar c && c ≠ '\x22' && c ≠ '\\'

def isLiteralChar (c : Char) : Bool := isCommentChar c && c ≠ '\x27'

def hexValue? (c : Char) : Option Nat :=
  if '0' ≤ c && c ≤ '9' then some (c.toNat - 48)
  else if 'a' ≤ c && c ≤ 'f' then some (c.toNat - 87)
  else if 'A' ≤ c && c ≤ 'F' then some (c.toNat - 55)
  else none

/-- The character that hexadecimal digits number. -/
def hexChar? (digits : List Char) : Option Char := do
  let values ← digits.mapM hexValue?
  let n := values.foldl (16 * · + ·) 0
  if n < 0xD800 || (0xDFFF < n && n < 0x110000) then some (Char.ofNat n) else none

/-- What a backslash and one letter stand for. -/
def escape? (c : Char) : Option Char :=
  match c with
  | 'b' => some '\x08'
  | 't' => some '\t'
  | 'n' => some '\n'
  | 'f' => some '\x0C'
  | 'r' => some '\x0D'
  | '\x22' => some '\x22'
  | '\\' => some '\\'
  | _ => none

/-- The rest after the end of a line. -/
def newline? : List Char → Option (List Char)
  | '\n' :: rest => some rest
  | '\x0D' :: '\n' :: rest => some rest
  | _ => none

/-! ### Texts -/

/-- The escaped character after a backslash, and the rest. -/
def readEscape : List Char → Option (Char × List Char)
  | 'u' :: rest =>
    if rest.length < 4 then none else (hexChar? (rest.take 4)).map (·, rest.drop 4)
  | 'U' :: rest =>
    if rest.length < 8 then none else (hexChar? (rest.take 8)).map (·, rest.drop 8)
  | c :: rest => (escape? c).map (·, rest)
  | [] => none

/-- A text in double quotes, after the first. -/
def readBasic : Nat → List Char → Option (List Char × List Char)
  | 0, _ => none
  | _, [] => none
  | fuel + 1, c :: cs =>
    if c = '\x22' then some ([], cs)
    else if c = '\\' then do
      let (found, rest) ← readEscape cs
      let (text, rest) ← readBasic fuel rest
      return (found :: text, rest)
    else if isBasicChar c then (readBasic fuel cs).map fun (text, rest) => (c :: text, rest)
    else none

/-- A text in single quotes, after the first. -/
def readLiteral : List Char → Option (List Char × List Char)
  | [] => none
  | c :: cs =>
    if c = '\x27' then some ([], cs)
    else if isLiteralChar c then (readLiteral cs).map fun (text, rest) => (c :: text, rest)
    else none

/-- Without the line end that may follow the quotes in front of a text of several lines. -/
def dropFirstNewline (cs : List Char) : List Char := (newline? cs).getD cs

/-- Quotes at the end of a text of several lines: the last three close it, and up to two before them belong
to it. Gives those two and the rest. -/
def closing? (quote : Char) (cs : List Char) : Option (List Char × List Char) :=
  let run := cs.takeWhile (· = quote)
  if 3 ≤ run.length && run.length ≤ 5 then some (run.drop 3, cs.drop run.length) else none

/-- Blanks and line ends. -/
def dropLines : Nat → List Char → List Char
  | 0, cs => cs
  | fuel + 1, cs =>
    let cs := cs.dropWhile isBlank
    match newline? cs with
    | some rest => dropLines fuel rest
    | none => cs

/-- A text of several lines in double quotes, after the first three. A backslash at the end of a line hides
the line end and all blanks and line ends after it. -/
def readBasicLines : Nat → List Char → Option (List Char × List Char)
  | 0, _ => none
  | _, [] => none
  | fuel + 1, c :: cs =>
    let add (found : Char) (rest : List Char) :=
      (readBasicLines fuel rest).map fun (text, rest) => (found :: text, rest)
    if c = '\x22' then
      match closing? '\x22' (c :: cs) with
      | some (text, rest) => some (text, rest)
      | none => if (c :: cs).take 3 = ['\x22', '\x22', '\x22'] then none else add c cs
    else if c = '\\' then
      match newline? (cs.dropWhile isBlank) with
      | some rest => readBasicLines fuel (dropLines rest.length rest)
      | none => do
        let (found, rest) ← readEscape cs
        add found rest
    else
      match newline? (c :: cs) with
      | some rest => add '\n' rest
      | none => if isBasicChar c then add c cs else none

/-- A text of several lines in single quotes, after the first three. -/
def readLiteralLines : Nat → List Char → Option (List Char × List Char)
  | 0, _ => none
  | _, [] => none
  | fuel + 1, c :: cs =>
    let add (found : Char) (rest : List Char) :=
      (readLiteralLines fuel rest).map fun (text, rest) => (found :: text, rest)
    if c = '\x27' then
      match closing? '\x27' (c :: cs) with
      | some (text, rest) => some (text, rest)
      | none => if (c :: cs).take 3 = ['\x27', '\x27', '\x27'] then none else add c cs
    else
      match newline? (c :: cs) with
      | some rest => add '\n' rest
      | none => if isLiteralChar c then add c cs else none

/-- A text in any of the four kinds of quotes. Steps as many as there are characters are enough. -/
def readText (fuel : Nat) (cs : List Char) : Option (List Char × List Char) :=
  match cs with
  | '\x22' :: '\x22' :: '\x22' :: rest => readBasicLines fuel (dropFirstNewline rest)
  | '\x22' :: rest => readBasic fuel rest
  | '\x27' :: '\x27' :: '\x27' :: rest => readLiteralLines fuel (dropFirstNewline rest)
  | '\x27' :: rest => readLiteral rest
  | _ => none

/-! ### Lists -/

/-- Blanks, line ends and comments that end with their line. -/
def dropTrivia : Nat → List Char → Option (List Char)
  | 0, _ => none
  | fuel + 1, cs =>
    let cs := cs.dropWhile isBlank
    match cs with
    | '#' :: rest => (newline? (rest.dropWhile isCommentChar)).bind (dropTrivia fuel)
    | cs =>
      match newline? cs with
      | some rest => dropTrivia fuel rest
      | none => some cs

/-- The texts of a list, after its bracket. There may be a comma after the last. More steps than there are
characters are enough, here and in all that is read on the way. -/
def readTexts : Nat → List Char → Option (List String × List Char)
  | 0, _ => none
  | fuel + 1, cs => do
    let cs ← dropTrivia (fuel + 1) cs
    match cs with
    | ']' :: rest => return ([], rest)
    | cs =>
      let (text, rest) ← readText fuel cs
      let rest ← dropTrivia fuel rest
      match rest with
      | ']' :: rest => return ([String.ofList text], rest)
      | ',' :: rest =>
        let (texts, rest) ← readTexts fuel rest
        return (String.ofList text :: texts, rest)
      | _ => none

/-! ### Lines -/

/-- A key: bare, or in quotes on one line. -/
def readKey (cs : List Char) : Option (List Char × List Char) :=
  match cs with
  | '\x22' :: rest => readBasic (rest.length + 1) rest
  | '\x27' :: rest => readLiteral rest
  | cs =>
    match cs.takeWhile isBareKey with
    | [] => none
    | key => some (key, cs.dropWhile isBareKey)

/-- The rest after a line of which only a comment may be left. -/
def readLineEnd (cs : List Char) : Option (List Char) :=
  let cs :=
    match cs.dropWhile isBlank with
    | '#' :: rest => rest.dropWhile isCommentChar
    | cs => cs
  match cs with
  | [] => some []
  | cs => newline? cs

/-- The lists that have been read; a key comes once only. -/
structure Lists where
  expressions : Option (List String)
  paths : Option (List String)

def Lists.set? (l : Lists) (key : String) (texts : List String) : Option Lists :=
  match key, l.expressions, l.paths with
  | "expressions", none, _ => some { l with expressions := some texts }
  | "paths", _, none => some { l with paths := some texts }
  | _, _, _ => none

/-- A key, an equals sign and a list. -/
def readEntry (l : Lists) (cs : List Char) : Option (Lists × List Char) := do
  let (key, rest) ← readKey cs
  match rest.dropWhile isBlank with
  | '=' :: rest =>
    match rest.dropWhile isBlank with
    | '[' :: rest =>
      let (texts, rest) ← readTexts (rest.length + 1) rest
      let l ← l.set? (String.ofList key) texts
      return (l, rest)
    | _ => none
  | _ => none

/-- Every line is empty, a comment or an entry. -/
def readLines : Nat → Lists → List Char → Option Lists
  | 0, _, _ => none
  | fuel + 1, l, cs =>
    match cs.dropWhile isBlank with
    | [] => some l
    | c :: cs => do
      let (l, rest) ←
        if c = '#' || (newline? (c :: cs)).isSome then some (l, c :: cs) else readEntry l (c :: cs)
      let rest ← readLineEnd rest
      readLines fuel l rest

/-- The configuration that a file holds. A byte order mark in front does not count. -/
def parse? (text : String) : Option Config :=
  let cs :=
    match text.toList with
    | '\uFEFF' :: rest => rest
    | cs => cs
  (readLines (cs.length + 1) ⟨none, none⟩ cs).map fun l =>
    ⟨l.expressions.getD [], l.paths.getD []⟩

end SyscallFilter.Config.File
