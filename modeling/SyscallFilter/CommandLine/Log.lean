import SyscallFilter.Event
import SyscallFilter.Pattern.Parser
import SyscallFilter.Text

/-! # The log: which events it shows, and on which lines

A log setting is a list of directives. The most specific directive that an event falls under decides up to
which level it is shown; there is one order of all directives, so no two are equally specific unless they
say the same. -/

namespace SyscallFilter

/-- The least urgent level that is shown, or none at all. -/
abbrev Threshold := Option Level

namespace Level

/-- A threshold by name in any case, or by a number from 0 to 5. -/
def threshold? (text : String) : Option Threshold :=
  let digits := (Text.after? "+" text).getD text
  match Numeral.parse? digits with
  | some n => [none, some error, some warn, some info, some debug, some trace][n]?
  | none =>
    if Text.sameLetters text "off" then some none
    else ([error, warn, info, debug, trace].find? fun l => Text.sameLetters text l.name).map some

def shownBy (l : Level) (t : Threshold) : Bool := t.any fun least => l.rank ≤ least.rank

end Level

/-! ## Values of fields -/

namespace FieldPattern

/-- Digits with at most one point among them, and an exponent. -/
def isDecimal (cs : List Char) : Bool :=
  let whole := cs.takeWhile Char.isDigit
  let rest := cs.dropWhile Char.isDigit
  let (fraction, rest) :=
    match rest with
    | '.' :: rest => (rest.takeWhile Char.isDigit, rest.dropWhile Char.isDigit)
    | _ => ([], rest)
  let exponent :=
    match rest with
    | [] => true
    | e :: '+' :: digits | e :: '-' :: digits | e :: digits =>
      (e = 'e' || e = 'E') && digits ≠ [] && digits.all Char.isDigit
  (whole ++ fraction) ≠ [] && exponent

/-- A number with or without a sign, or a word for infinity or for no number. -/
def isNumber (text : String) : Bool :=
  let unsigned :=
    match text.toList with
    | '+' :: rest | '-' :: rest => rest
    | cs => cs
  isDecimal unsigned ||
    ["inf", "infinity", "nan"].any (Text.sameLetters (String.ofList unsigned))

/-- A value is compared as a number or by a pattern, which may ask for the edges of words of ASCII only. -/
def isValid (text : String) : Bool :=
  isNumber text || (Pattern.read? text).any fun p => !p.hasUnicodeEdge

end FieldPattern

/-! ## Directives -/

structure Directive where
  threshold : Threshold
  /-- How the source of an event begins. -/
  target : Option String
  /-- It speaks of a named span of time or of the value of a field, which no event by itself satisfies. -/
  limited : Bool
  /-- A field that an event has to have. -/
  field : Option String
  deriving DecidableEq, Repr

namespace Directive

/-- The place that reading a directive has come to. Positions count bytes. -/
inductive Place where
  | start
  | word (first : Nat)
  | span (first : Nat)
  | field (first : Nat)
  | fieldEnd
  | target
  | level (first : Nat)

def blank : Directive := ⟨some .trace, none, false, none⟩

/-- A field by name, or with a value after an equals sign. A second sign ends the value. -/
def setField (d : Directive) (text : String) : Option Directive :=
  if text = "" then none
  else
    match Text.cut '=' text with
    | none => some { d with field := some text }
    | some (name, rest) =>
      let value := ((Text.cut '=' rest).map (·.1)).getD rest
      if FieldPattern.isValid value then some { d with field := some name, limited := true } else none

/-- A level, which may be left out. -/
def setLevel (d : Directive) (text : String) : Option Directive :=
  if text = "" then some { d with threshold := some .trace }
  else (Level.threshold? text).map fun threshold => { d with threshold }

/-- The characters that begin at a byte from `first` up to `last`. The list begins at byte `i`. -/
def between (first last : Nat) : Nat → List Char → List Char
  | _, [] => []
  | i, c :: cs =>
    let rest := between first last (i + c.utf8Size) cs
    if first ≤ i && i < last then c :: rest else rest

/-- One character at a position. `slice a b` is the text from `a` up to `b`. -/
def step (slice : Nat → Nat → String) (d : Directive) (place : Place) (i : Nat) (c : Char) :
    Option (Directive × Place) :=
  match place, c with
  | .start, '[' => some (d, .span (i + 1))
  | .start, c =>
    if c = '-' || c = ':' || c = '_' || Unicode.isLetter c || Unicode.isNumber c then some (d, .word i)
    else none
  | .word first, '=' => some ({ d with target := some (slice first i) }, .level (i + 1))
  | .word first, '[' => some ({ d with target := some (slice first i) }, .span (i + 1))
  | .word first, _ => some (d, .word first)
  | .target, '=' => some (d, .level (i + 1))
  | .span _, ']' => some ({ d with limited := true }, .target)
  | .span first, '\x7B' => some ({ d with limited := slice first i ≠ "" }, .field (i + 1))
  | .span first, _ => some (d, .span first)
  | .field first, '\x7D' => (d.setField (slice first i)).map (·, .fieldEnd)
  | .field first, _ => some (d, .field first)
  | .fieldEnd, ']' => some (d, .target)
  | .level first, _ => some (d, .level first)
  | _, _ => none

def scan (slice : Nat → Nat → String) : Directive → Place → Nat → List Char → Option (Directive × Place)
  | d, place, _, [] => some (d, place)
  | d, place, i, c :: cs =>
    (step slice d place i c).bind fun (d, place) => scan slice d place (i + c.utf8Size) cs

/-- Reads a directive: `level`, `target`, `target=level`, and in brackets what it is limited to. Blanks
around it do not count when its parts are found, but they do when their text is cut out. -/
def parse? (text : String) : Option Directive :=
  let blankAt (c : Char) := Unicode.whiteSpace.contains c
  let slice (first last : Nat) := String.ofList (between first last 0 text.toList)
  let trimmed := ((text.toList.dropWhile blankAt).reverse.dropWhile blankAt).reverse
  match scan slice blank .start 0 trimmed with
  | some (d, .word first) =>
    let word := slice first text.utf8ByteSize
    match Level.threshold? word with
    | some threshold => some { d with threshold, target := none }
    | none => some { d with threshold := some .trace, target := some word }
  | some (d, .level first) => d.setLevel (slice first text.utf8ByteSize)
  | some (d, .target) => some d
  | _ => none

/-- Whether an event falls under a directive. Every event has a message. -/
def covers (d : Directive) (e : Event) : Bool :=
  !d.limited && d.target.all (·.toList.isPrefixOf e.source.toList) &&
    d.field.all fun name => name = "message" || e.fields.any (·.1 = name)

/-- Directives in the order of what they say, the least specific first: by the length of the target, then
by whether they ask for a field, then by the letters of the target and of the field. -/
def order (d d' : Directive) : Ordering :=
  (compare (d.target.map (·.utf8ByteSize)) (d'.target.map (·.utf8ByteSize))).then
    ((compare d.field.isSome d'.field.isSome).then
      ((compare d.target d'.target).then (compare d.field d'.field)))

end Directive

/-- The directives of a log, of which a later one replaces an earlier one that says the same. -/
structure LogFilter where
  directives : List Directive
  deriving DecidableEq, Repr

namespace LogFilter

/-- Every event down to a level. -/
def upTo (l : Level) : LogFilter := ⟨[⟨some l, none, false, none⟩]⟩

/-- The directives of a setting, between commas. If any of them cannot be read, warnings are shown. -/
def ofSetting (setting : String) : LogFilter :=
  match (Text.tokens ',' setting).mapM Directive.parse? with
  | some directives => ⟨directives⟩
  | none => upTo .warn

/-- Debugging shows everything, and without a setting warnings are shown. -/
def choose (debug : Bool) (setting : Option String) : LogFilter :=
  if debug then upTo .trace else (setting.map ofSetting).getD (upTo .warn)

/-- The directive that decides about an event: the last in order. Of two that say the same, it is the one
that was given last. -/
def deciding? (f : LogFilter) (e : Event) : Option Directive :=
  (f.directives.filter (·.covers e)).foldl (fun best d =>
    match best with
    | none => some d
    | some b => if (b.order d).isGT then some b else some d) none

def shows (f : LogFilter) (e : Event) : Bool :=
  (f.deciding? e).any fun d => e.level.shownBy d.threshold

end LogFilter

/-! ## Lines -/

namespace LogLine

def hex (n : Nat) : String := String.ofList (Nat.toDigits 16 n)

/-- Characters that cannot be shown as they are: controls, blanks other than the space, and those without a
meaning of their own. -/
def unprintable : Unicode.RangeTable :=
  Unicode.GeneralCategory.table ["Cc", "Cf", "Cn", "Co", "Zl", "Zp", "Zs"]

/-- Characters that leave no mark where nothing knows them, such as fillers. -/
def ignorable : Unicode.RangeTable :=
  (Unicode.BinaryProperty.find? "defaultignorablecodepoint").getD .empty

/-- Characters that change the one before them. -/
def combining : Unicode.RangeTable := (Unicode.BinaryProperty.find? "graphemeextend").getD .empty

/-- The voicing marks of narrow kana change the character before them, and yet take a place of their own. -/
def isVoicingMark (c : Char) : Bool := c = '\uFF9E' || c = '\uFF9F'

def isPlain (c : Char) : Bool :=
  c = ' ' || isVoicingMark c || Unicode.latestVisible.contains c ||
    !(unprintable.contains c || ignorable.contains c || combining.contains c)

def quotedChar (c : Char) : String :=
  match c with
  | '\t' => "\\t"
  | '\n' => "\\n"
  | '\x0D' => "\\r"
  | '\x00' => "\\0"
  | '\x22' => "\\\x22"
  | '\\' => "\\\\"
  | c => if isPlain c then String.singleton c else "\\u\x7B" ++ hex c.toNat ++ "\x7D"

/-- Text in double quotes, with escapes for what cannot stand in them. -/
def quoted (s : String) : String := "\x22" ++ String.join (s.toList.map quotedChar) ++ "\x22"

/-- Characters that a terminal would act on, written out. -/
def harmlessChar (c : Char) : String :=
  match c with
  | '\x1B' => "\\x1b"
  | '\x07' => "\\x07"
  | '\x08' => "\\x08"
  | '\x0C' => "\\x0c"
  | '\x7F' => "\\x7f"
  | c =>
    if 0x80 ≤ c.toNat && c.toNat ≤ 0x9F then "\\u\x7B" ++ hex c.toNat ++ "\x7D" else String.singleton c

def harmless (s : String) : String := String.join (s.toList.map harmlessChar)

end LogLine

/-- A value as a log shows it. -/
def FieldValue.logText : FieldValue → String
  | number n => toString n
  | truth b => if b then "true" else "false"
  | text s => LogLine.quoted s
  | label s => s

/-- The level in a column of five, the source, the message and the fields. -/
def Event.logLine (e : Event) : String :=
  let level := e.level.name
  String.ofList (List.replicate (5 - level.length) ' ') ++ level ++ " " ++ e.source ++ ": " ++
    LogLine.harmless e.message ++
    String.join (e.fields.map fun (name, value) => " " ++ name ++ "=" ++ value.logText) ++ "\n"

end SyscallFilter
