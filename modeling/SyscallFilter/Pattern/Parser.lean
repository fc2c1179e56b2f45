import SyscallFilter.Pattern.Size
import SyscallFilter.Unicode.Property

/-! # Reading patterns

There is no look-around and no back-reference. Nothing here says why a pattern is refused. -/

namespace SyscallFilter

open Unicode

namespace Pattern

/-! ## Modes -/

/-- What the letters of a group such as `(?is-u)` switch. -/
structure Modes where
  ignoreCase : Bool := false
  multiLine : Bool := false
  dotAll : Bool := false
  unicode : Bool := true
  crlf : Bool := false
  /-- Blanks and comments do not count. -/
  spaced : Bool := false
  deriving Repr, DecidableEq

/-- Which repetitions are tried first makes no difference to whether there is a match, so `U` changes
nothing. -/
def Modes.set (m : Modes) (letter : Char) (value : Bool) : Modes :=
  match letter with
  | 'i' => { m with ignoreCase := value }
  | 'm' => { m with multiLine := value }
  | 's' => { m with dotAll := value }
  | 'u' => { m with unicode := value }
  | 'R' => { m with crlf := value }
  | 'x' => { m with spaced := value }
  | _ => m

/-- Letters before the dash are switched on, letters after it off. -/
def Modes.apply (m : Modes) : Bool → List Char → Modes
  | _, [] => m
  | value, c :: cs => if c = '-' then m.apply false cs else (m.set c value).apply value cs

/-- The letters of a group up to `:` or `)`, that character and the rest. A letter or dash comes once only,
and a dash is followed by a letter. -/
def readModes : List Char → List Char → Option (List Char × Char × List Char)
  | _, [] => none
  | seen, c :: cs =>
    if c = ':' || c = ')' then
      if seen.head? = some '-' then none else some (seen.reverse, c, cs)
    else if "-imsUuRx".toList.contains c && !seen.contains c then readModes (c :: seen) cs
    else none

/-- Whether a comment goes on after a character that does not count; nothing if the character counts. -/
def Modes.comment? (m : Modes) (inComment : Bool) (c : Char) : Option Bool :=
  if !m.spaced then none
  else if inComment then some (c != '\n')
  else if whiteSpace.contains c then some false
  else if c = '#' then some true
  else none

/-- What is left from the first character on that counts. -/
def Modes.skipFrom (m : Modes) (inComment : Bool) : List Char → List Char
  | [] => []
  | c :: cs =>
    match m.comment? inComment c with
    | some inComment => m.skipFrom inComment cs
    | none => c :: cs

def Modes.skip (m : Modes) (cs : List Char) : List Char := m.skipFrom false cs

/-- The set with both cases, where case is ignored. -/
def Modes.fold (m : Modes) (k : CharClass) : CharClass :=
  if m.ignoreCase then (if m.unicode then k.folded else k.asciiFolded) else k

/-- The complement, where asked for. Outside Unicode mode it would hold bytes that are no characters. -/
def Modes.negate (m : Modes) (negated : Bool) (k : CharClass) : Option CharClass :=
  if negated then (if m.unicode then some k.compl else none) else some k

/-! ## Escapes -/

inductive Escape where
  /-- A character, and whether it was written as a byte in two hexadecimal digits. -/
  | literal (c : Char) (byte : Bool)
  | set (k : CharClass)
  | edge (e : Edge)

def hexValue? (c : Char) : Option Nat :=
  if '0' ≤ c && c ≤ '9' then some (c.toNat - 48)
  else if 'a' ≤ c && c ≤ 'f' then some (c.toNat - 87)
  else if 'A' ≤ c && c ≤ 'F' then some (c.toNat - 55)
  else none

/-- The character with a number, if there is one. -/
def scalar? (n : Nat) : Option Char :=
  if n < 0xD800 || (0xDFFF < n && n < 0x110000) then some (Char.ofNat n) else none

/-- Exactly `count` more hexadecimal digits after a value. -/
def readHexDigits (m : Modes) : Nat → Nat → List Char → Option (Char × List Char)
  | 0, value, cs => (scalar? value).map (·, cs)
  | count + 1, value, cs =>
    match m.skip cs with
    | [] => none
    | c :: rest => (hexValue? c).bind fun d => readHexDigits m count (16 * value + d) rest

/-- Characters up to a closing brace, and the rest after it. -/
def readBraced (m : Modes) (inComment : Bool) : List Char → Option (List Char × List Char)
  | [] => none
  | c :: rest =>
    match m.comment? inComment c with
    | some inComment => readBraced m inComment rest
    | none =>
      if c = '\x7D' then some ([], rest)
      else (readBraced m false rest).map fun (text, after) => (c :: text, after)

/-- A character by number: in braces, or in a fixed count of digits. -/
def readHex (m : Modes) (kind : Char) (cs : List Char) : Option (Char × List Char) :=
  match m.skip cs with
  | '\x7B' :: rest => do
    let (text, after) ← readBraced m false rest
    let digits ← text.mapM hexValue?
    let c ← if digits.isEmpty then none else scalar? (digits.foldl (16 * · + ·) 0)
    return (c, after)
  | cs => readHexDigits m (if kind = 'x' then 2 else if kind = 'u' then 4 else 8) 0 cs

/-- The text before and after the first occurrence of `sep`. -/
def cut (sep : List Char) : List Char → Option (List Char × List Char)
  | [] => none
  | c :: cs =>
    if sep.isPrefixOf (c :: cs) then some ([], (c :: cs).drop sep.length)
    else (cut sep cs).map fun (a, b) => (c :: a, b)

/-- A property in braces, and whether its opposite is meant: a name, or a name and a value. `!=` asks for
the opposite; it is looked for first, then `:`, then `=`. -/
def propertySet? (text : List Char) : Option (Bool × RangeTable) :=
  let valued (name value : List Char) := propertyValue? (String.ofList name) (String.ofList value)
  match cut ['!', '='] text with
  | some (name, value) => (valued name value).map (true, ·)
  | none =>
    match cut [':'] text <|> cut ['='] text with
    | some (name, value) => (valued name value).map (false, ·)
    | none => (property? (String.ofList text)).map (false, ·)

/-- A set by property: one letter, or a name in braces. Two negations cancel. -/
def readProperty (m : Modes) (negated : Bool) (cs : List Char) : Option (CharClass × List Char) := do
  let found : Option ((Bool × RangeTable) × List Char) :=
    match m.skip cs with
    | [] => none
    | '\x7B' :: rest => do
      let (text, after) ← readBraced m false rest
      let set ← propertySet? text
      return (set, after)
    | c :: rest => (property? (String.singleton c)).map fun t => ((false, t), rest)
  let ((opposite, t), after) ← found
  if m.unicode then
    let k ← m.negate (negated != opposite) (m.fold t)
    return (k, after)
  else none

/-- The sets with a letter of their own. -/
def letterSet (m : Modes) (letter : Char) : CharClass :=
  match letter with
  | 'd' => if m.unicode then decimalDigits else .asciiDigit
  | 's' => if m.unicode then whiteSpace else .asciiSpace
  | _ => if m.unicode then wordChars else .asciiWord

/-- What may follow `\b` in braces, or `\b` alone where the brace begins a count. -/
def readWordEdge (m : Modes) (cs : List Char) : Option (WordEdge × List Char) :=
  let isNameChar (c : Char) := c.isAlpha || c = '-'
  match cs with
  | '\x7B' :: rest =>
    match m.skip rest with
    | [] => none
    | c :: after =>
      if !isNameChar c then some (.boundary, cs)
      else do
        let (text, after) ← readBraced m false (c :: after)
        let edge ←
          match String.ofList text with
          | "start" => some WordEdge.start
          | "end" => some .stop
          | "start-half" => some .startHalf
          | "end-half" => some .stopHalf
          | _ => none
        return (edge, after)
  | _ => some (.boundary, cs)

/-- Punctuation that a backslash turns into itself. -/
def isEscapable (c : Char) : Bool :=
  c.toNat < 128 && !c.isAlphanum && c ≠ '<' && c ≠ '>'

/-- What follows a backslash. -/
def readEscape (m : Modes) : List Char → Option (Escape × List Char)
  | [] => none
  | c :: rest =>
    let ascii := !m.unicode
    match c with
    | 'x' | 'u' | 'U' =>
      (readHex m c rest).map fun (found, after) =>
        let fixed := c = 'x' && (m.skip rest).head? ≠ some '\x7B'
        (.literal found fixed, after)
    | 'p' | 'P' => (readProperty m (c = 'P') rest).map fun (k, after) => (.set k, after)
    | 'd' | 's' | 'w' => some (.set (letterSet m c), rest)
    | 'D' | 'S' | 'W' => (m.negate true (letterSet m c.toLower)).map fun k => (.set k, rest)
    | 'a' => some (.literal '\x07' false, rest)
    | 'f' => some (.literal '\x0C' false, rest)
    | 't' => some (.literal '\t' false, rest)
    | 'n' => some (.literal '\n' false, rest)
    | 'r' => some (.literal '\x0D' false, rest)
    | 'v' => some (.literal '\x0B' false, rest)
    | 'A' => some (.edge .textStart, rest)
    | 'z' => some (.edge .textEnd, rest)
    | 'b' => (readWordEdge m rest).map fun (e, after) => (.edge (.word ascii e), after)
    | 'B' => some (.edge (.word ascii .inner), rest)
    | '<' => some (.edge (.word ascii .start), rest)
    | '>' => some (.edge (.word ascii .stop), rest)
    | c => if isEscapable c then some (.literal c false, rest) else none

/-! ## Depth

Brackets, groups, repetitions, rows of more than one part and alternatives lie one in another, and so do the
operators of a class. What lies too deep is refused. -/

def depthLimit : Nat := 250

/-- The depth of a row of parts: a row of one is no row. -/
def rowDepth : List Nat → Nat
  | [] => 0
  | [d] => d
  | ds => 1 + ds.foldl max 0

/-! ## Bracketed classes -/

/-- A class with the depth of how it is written. -/
structure DeepClass where
  set : CharClass
  depth : Nat := 0

inductive ClassOp where
  | inter
  | diff
  | symmDiff

def ClassOp.combine (op : ClassOp) (a b : CharClass) : CharClass :=
  match op with
  | .inter => a.inter b
  | .diff => a.diff b
  | .symmDiff => a.symmDiff b

/-- A member of a class or an end of a run in it. Outside Unicode mode it is ASCII. -/
def classMember? (m : Modes) (c : Char) : Option Char :=
  if m.unicode || c.toNat < 128 then some c else none

/-- One element: a plain character or an escape. -/
def readElement (m : Modes) : List Char → Option (Escape × List Char)
  | [] => none
  | '\\' :: rest => readEscape m rest
  | c :: rest => some (.literal c false, rest)

/-- The next character after a dash that may end a class. A comment hides only its own first mark. -/
def peekAfter (m : Modes) (cs : List Char) : Option Char :=
  if m.spaced then
    match cs.dropWhile whiteSpace.contains with
    | '#' :: rest => (rest.dropWhile whiteSpace.contains).head?
    | rest => rest.head?
  else cs.head?

/-- An element, or a run of characters between two of them. -/
def readRun (m : Modes) (cs : List Char) : Option (CharClass × List Char) := do
  let (first, rest) ← readElement m cs
  let alone (after : List Char) : Option (CharClass × List Char) :=
    match first with
    | .literal c _ => (classMember? m c).map fun c => (.single c, after)
    | .set k => some (k, after)
    | .edge _ => none
  match m.skip rest with
  | [] => none
  | '-' :: after =>
    if peekAfter m after = some ']' || peekAfter m after = some '-' then alone ('-' :: after)
    else
      let (last, rest) ← readElement m (m.skip after)
      match first, last with
      | .literal a _, .literal b _ =>
        let a ← classMember? m a
        let b ← classMember? m b
        if a ≤ b then return (.span a b, rest) else none
      | _, _ => none
  | after => alone after

/-- A named ASCII class, after its first bracket. Where there is none, the bracket opens a class. -/
def readPosix (m : Modes) (cs : List Char) : Option (Option CharClass × List Char) := do
  let (negated, body) ←
    match cs with
    | ':' :: '^' :: rest => some (true, rest)
    | ':' :: rest => some (false, rest)
    | _ => none
  let name := body.takeWhile (· ≠ ':')
  let k ← CharClass.posix? (String.ofList name)
  match body.dropWhile (· ≠ ':') with
  | ':' :: ']' :: rest => some (m.negate negated (m.fold k), rest)
  | _ => none

/-- The number of dashes that come first, and the rest. -/
def readDashes (m : Modes) (inComment : Bool) (count : Nat) : List Char → Nat × List Char
  | [] => (count, [])
  | c :: rest =>
    match m.comment? inComment c with
    | some inComment => readDashes m inComment count rest
    | none => if c = '-' then readDashes m false (count + 1) rest else (count, c :: rest)

/-- The start of a class after its bracket: whether it is negated, the members that would otherwise mean
something else, and the rest. -/
def readClassStart (m : Modes) (cs : List Char) : Bool × List DeepClass × List Char :=
  let (negated, cs) :=
    match m.skip cs with
    | '^' :: rest => (true, m.skip rest)
    | rest => (false, rest)
  match readDashes m false 0 cs with
  | (0, ']' :: rest) => (negated, [⟨.single ']', 0⟩], rest)
  | (count, rest) => (negated, List.replicate count ⟨.single '-', 0⟩, rest)

/-- What has been read since the last operator, joined with what stands before it. -/
def joinClass (m : Modes) (left : Option (ClassOp × DeepClass)) (parts : List DeepClass) : DeepClass :=
  let set := m.fold (.unions (parts.map (·.set)))
  let depth := rowDepth (parts.map (·.depth))
  match left with
  | some (op, l) => ⟨op.combine l.set set, 1 + max l.depth depth⟩
  | none => ⟨set, depth⟩

/-- The rest of a class up to its bracket. `left` is what stands before the last operator, and `parts` what
has come after it. Operators group to the left, and bind less than standing side by side. -/
def readClass (m : Modes) : Nat → Option (ClassOp × DeepClass) → List DeepClass → List Char →
    Option (DeepClass × List Char)
  | 0, _, _, _ => none
  | fuel + 1, left, parts, cs =>
    let operate (op : ClassOp) (rest : List Char) :=
      readClass m fuel (some (op, joinClass m left parts)) [] rest
    match m.skip cs with
    | [] => none
    | ']' :: rest => some (joinClass m left parts, rest)
    | '&' :: '&' :: rest => operate .inter rest
    | '-' :: '-' :: rest => operate .diff rest
    | '~' :: '~' :: rest => operate .symmDiff rest
    | '[' :: rest =>
      match readPosix m rest with
      | some (named, after) => named.bind fun named => readClass m fuel left (⟨named, 0⟩ :: parts) after
      | none => do
        let (negated, start, after) := readClassStart m rest
        let (inner, after) ← readClass m fuel none start after
        let set ← m.negate negated inner.set
        readClass m fuel left (⟨set, inner.depth + 1⟩ :: parts) after
    | cs => do
      let (run, after) ← readRun m cs
      readClass m fuel left (⟨run, 0⟩ :: parts) after

/-- A class, after its first bracket. -/
def readBracketed (m : Modes) (fuel : Nat) (cs : List Char) : Option (DeepClass × List Char) := do
  let (negated, start, rest) := readClassStart m cs
  let (k, rest) ← readClass m fuel none start rest
  let set ← m.negate negated k.set
  return (⟨set, k.depth + 1⟩, rest)

/-! ## Repetition -/

/-- The number whose digits come first, after those that make up `value`, and the rest. -/
def readDigits (m : Modes) (inComment : Bool) (value : Option Nat) : List Char → Option Nat × List Char
  | [] => (value, [])
  | c :: rest =>
    match m.comment? inComment c with
    | some inComment => readDigits m inComment value rest
    | none =>
      if c.isDigit then readDigits m false (some (10 * value.getD 0 + (c.toNat - 48))) rest
      else (value, c :: rest)

/-- A decimal number with blanks around it; `none` inside if there are no digits. -/
def readCount (m : Modes) (cs : List Char) : Option (Option Nat × List Char) :=
  let (value, rest) := readDigits m false none (cs.dropWhile whiteSpace.contains)
  if value.all (· < UInt32.size) then some (value, m.skip (rest.dropWhile whiteSpace.contains)) else none

/-- The bounds of a counted repetition, after its brace. -/
def readBounds (m : Modes) (cs : List Char) : Option ((Nat × Option Nat) × List Char) := do
  let (least, rest) ← readCount m (m.skip cs)
  let least ← least
  match rest with
  | '\x7D' :: rest => return ((least, some least), rest)
  | ',' :: rest =>
    match m.skip rest with
    | '\x7D' :: rest => return ((least, none), rest)
    | rest =>
      let (most, rest) ← readCount m rest
      let most ← most
      match rest with
      | '\x7D' :: rest => if least ≤ most then return ((least, some most), rest) else none
      | _ => none
  | _ => none

/-! ## Groups -/

/-- What an opening bracket begins. -/
inductive Opening where
  /-- A group with its own modes, whether it has a number, and its name if it has one. -/
  | group (modes : Modes) (numbered : Bool) (name : Option (List Char))
  /-- New modes for the rest of the group around it. -/
  | modes (modes : Modes)

/-- The name of a group up to its closing angle bracket. -/
def readGroupName (cs : List Char) : Option (List Char × List Char) :=
  let name := cs.takeWhile (· ≠ '>')
  let later (c : Char) :=
    c = '_' || c = '.' || c = '[' || c = ']' || isLetter c || isNumber c
  match name, cs.drop name.length with
  | c :: others, '>' :: rest =>
    if (c = '_' || isLetter c) && others.all later then some (name, rest) else none
  | _, _ => none

def readOpening (m : Modes) (cs : List Char) : Option (Opening × List Char) :=
  let named (rest : List Char) :=
    (readGroupName rest).map fun (name, after) => (Opening.group m true (some name), after)
  match m.skip cs with
  | '?' :: '=' :: _ | '?' :: '!' :: _ => none
  | '?' :: '<' :: '=' :: _ | '?' :: '<' :: '!' :: _ => none
  | '?' :: 'P' :: '<' :: rest => named rest
  | '?' :: '<' :: rest => named rest
  | '?' :: rest => do
    let (letters, close, after) ← readModes [] rest
    let inner := m.apply true letters
    if close = ':' then return (.group inner false none, after)
    else if letters.isEmpty then none
    else return (.modes inner, after)
  | rest => some (.group m true none, rest)

/-! ## The whole pattern -/

/-- A pattern with the depth of how it is written. -/
structure Deep where
  pattern : Pattern
  depth : Nat := 0

/-- A part of a branch: something that can be repeated, or a change of modes. -/
inductive Item where
  | piece (p : Deep)
  | setting

def Item.deep : Item → Deep
  | .piece p => p
  | .setting => ⟨.empty, 0⟩

/-- A group that is being read, innermost first in `State.groups`; its items and branches are in reverse. -/
structure Group where
  outer : Modes
  numbered : Bool
  items : List Item
  branches : List Deep

structure State where
  modes : Modes
  items : List Item
  branches : List Deep
  groups : List Group
  names : List (List Char)

/-- The branch whose items have been read. -/
def State.branch (s : State) : Deep :=
  let parts := s.items.reverse.map Item.deep
  ⟨.concat (parts.map (·.pattern)), rowDepth (parts.map (·.depth))⟩

/-- All branches that have been read, as alternatives. -/
def State.whole (s : State) : Deep :=
  let branches := (s.branch :: s.branches).reverse
  ⟨.alternatives (branches.map (·.pattern)), rowDepth (branches.map (·.depth))⟩

def State.push (s : State) (p : Pattern) (depth : Nat) : State :=
  { s with items := .piece ⟨p, depth⟩ :: s.items }

/-- The last item repeated; there has to be one that can be. -/
def State.repeatLast (s : State) (least : Nat) (most : Option Nat) : Option State :=
  match s.items with
  | .piece p :: items =>
    some { s with items := .piece ⟨.rep least most p.pattern, p.depth + 1⟩ :: items }
  | _ => none

/-- A mark that asks for few repetitions rather than many says nothing about whether there is a match. -/
def dropLazy : List Char → List Char
  | '?' :: rest => rest
  | cs => cs

def literalPattern (m : Modes) (c : Char) (byte : Bool) : Option Pattern :=
  if m.unicode then some (.char (m.fold (.single c)))
  else if byte && 127 < c.toNat then none
  else if c.toNat < 128 then some (.char (m.fold (.single c)))
  else some (.char (.single c))

/-- One step: what begins with `c`. Gives the rest of the pattern, which is no longer than `fuel`. -/
def State.step (s : State) (fuel : Nat) (c : Char) (rest : List Char) : Option (State × List Char) :=
  let m := s.modes
  match c with
  | '(' => do
    let (opening, after) ← readOpening m rest
    match opening with
    | .modes inner => return ({ s with modes := inner, items := .setting :: s.items }, after)
    | .group inner numbered name =>
      let names ←
        match name with
        | none => some s.names
        | some name => if s.names.contains name then none else some (name :: s.names)
      return (⟨inner, [], [], ⟨m, numbered, s.items, s.branches⟩ :: s.groups, names⟩, after)
  | ')' =>
    match s.groups with
    | [] => none
    | g :: groups =>
      let inner := s.whole
      let p := if g.numbered then .group inner.pattern else inner.pattern
      some (⟨g.outer, .piece ⟨p, inner.depth + 1⟩ :: g.items, g.branches, groups, s.names⟩, rest)
  | '|' => some ({ s with items := [], branches := s.branch :: s.branches }, rest)
  | '[' => do
    let (k, after) ← readBracketed m fuel rest
    return (s.push (.char k.set) k.depth, after)
  | '?' => do return (← s.repeatLast 0 (some 1), dropLazy rest)
  | '*' => do return (← s.repeatLast 0 none, dropLazy rest)
  | '+' => do return (← s.repeatLast 1 none, dropLazy rest)
  | '\x7B' => do
    let ((least, most), after) ← readBounds m rest
    return (← s.repeatLast least most, dropLazy (m.skip after))
  | '.' =>
    if !m.unicode then none
    else if m.dotAll then some (s.push (.char .any) 0, rest)
    else if m.crlf then some (s.push (.char (CharClass.ofList ['\n', '\x0D']).compl) 0, rest)
    else some (s.push (.char (CharClass.single '\n').compl) 0, rest)
  | '^' =>
    let e := if !m.multiLine then .textStart else if m.crlf then .lineStartCrlf else .lineStart
    some (s.push (.edge e) 0, rest)
  | '$' =>
    let e := if !m.multiLine then .textEnd else if m.crlf then .lineEndCrlf else .lineEnd
    some (s.push (.edge e) 0, rest)
  | '\\' => do
    let (escape, after) ← readEscape m rest
    match escape with
    | .literal c byte => return (s.push (← literalPattern m c byte) 0, after)
    | .set k => return (s.push (.char k) 0, after)
    | .edge e => return (s.push (.edge e) 0, after)
  | c => (literalPattern m c false).map fun p => (s.push p 0, rest)

/-- Every step takes at least one character, so as many steps as there are characters are enough. -/
def readAll : Nat → State → List Char → Option Pattern
  | 0, _, _ => none
  | fuel + 1, s, cs =>
    match s.modes.skip cs with
    | [] => if s.groups.isEmpty && s.whole.depth ≤ depthLimit then some s.whole.pattern else none
    | c :: rest => (s.step (fuel + 1) c rest).bind fun (s, rest) => readAll fuel s rest

/-- The pattern that a text spells, if it is well formed. -/
def read? (text : String) : Option Pattern :=
  readAll (text.length + 1) ⟨{}, [], [], [], []⟩ text.toList

/-- The pattern that a text spells, if it is well formed and not too large, in a plain form. -/
def parse? (text : String) : Option Pattern :=
  (read? text).bind fun p => if p.fits then some p.plain else none

end Pattern

end SyscallFilter
