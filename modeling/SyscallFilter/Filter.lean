import SyscallFilter.Spec

/-! # Filters: conditions on one call -/

namespace SyscallFilter

/-! ## Paths, and sets of paths that compare by components -/

namespace Path

inductive Component where
  | root
  /-- A dot at the start of a relative path. -/
  | here
  | name (text : List Char)
  deriving DecidableEq, Repr

/-- The names between slashes. Empty ones do not count, nor do dots. -/
def names (pieces : List (List Char)) : List Component :=
  (pieces.filter fun piece => piece ≠ [] && piece ≠ ['.']).map .name

/-- What a path is made of. Two dots are a name like any other. -/
def components (path : String) : List Component :=
  match Text.pieces '/' path.toList with
  | [] => []
  | [] :: rest => (if rest.isEmpty then [] else [.root]) ++ names rest
  | first :: rest => if first = ['.'] then .here :: names rest else names (first :: rest)

/-- Whether two paths are spellings of the same components. -/
def same (a b : String) : Bool := components a == components b

end Path

/-- Paths in the order and spelling in which they were first selected. -/
structure PathSet where
  paths : List String
  deriving DecidableEq, Repr

namespace PathSet

def empty : PathSet := ⟨[]⟩

def contains (s : PathSet) (path : String) : Bool := s.paths.any (Path.same · path)

/-- Selects a path, unless it is selected already. -/
def select (s : PathSet) (path : String) : PathSet :=
  if s.contains path then s else ⟨s.paths ++ [path]⟩

def isEmpty (s : PathSet) : Bool := s.paths.isEmpty

/-- Whether any of some paths is selected. -/
def meets (s : PathSet) (paths : List String) : Bool := paths.any s.contains

end PathSet

/-! ## Filters -/

inductive FilterKind where
  | syscall
  | fd
  | path
  deriving DecidableEq, Repr

def FilterKind.name : FilterKind → String
  | syscall => "syscall"
  | fd => "fd"
  | path => "path"

inductive Filter where
  /-- The number of the call is in the set of its personality. -/
  | syscall (sets : List NumberSet)
  /-- A descriptor among the arguments is in the set. -/
  | fd (set : NumberSet)
  /-- A path among the arguments is in the set. -/
  | path (paths : PathSet)
  deriving DecidableEq

namespace Filter

def kind : Filter → FilterKind
  | syscall _ => .syscall
  | fd _ => .fd
  | path _ => .path

/-- The filter of a kind that a text describes. -/
def parse (kind : FilterKind) (spec : String) (p : Personalities) (mode : Mode) :
    Except ClauseError Filter × List Event :=
  match kind with
  | .syscall =>
    let done := CallSpec.addTo spec mode p.tables (p.tables.map fun _ => .empty)
    (done.result.map fun _ => .syscall done.state, done.events)
  | .fd =>
    let (result, set) := NumberSpec.addTo spec .descriptor Numeral.number? mode .empty
    (result.map fun _ => .fd set, [])
  | .path => (.ok (.path (PathSet.empty.select spec)), [])

/-- The filter that every call of a known personality passes. -/
def allCalls (p : Personalities) : Filter := .syscall (p.tables.map fun _ => NumberSet.empty.invert)

/-! ## Descriptors -/

/-- Calls whose descriptors are not just the first argument, with the places of their descriptors. -/
def descriptorPlaces : List (String × List (Fin 6)) :=
  [("dup2", [0, 1]), ("dup3", [0, 1]), ("sendfile", [0, 1]), ("tee", [0, 1]),
   ("kexec_file_load", [0, 1]), ("splice", [0, 2]), ("copy_file_range", [0, 2]), ("epoll_ctl", [0, 2]),
   ("linkat", [0, 2]), ("renameat", [0, 2]), ("renameat2", [0, 2]), ("symlinkat", [1]), ("mmap", [4]),
   -- These two carry no descriptor class, but what they read and write can be shown.
   ("mq_timedsend", [0]), ("mq_timedreceive", [0])]

/-- The places of the descriptors of an entry; an entry without a name has none. -/
def placesOf (e : Entry) : List (Fin 6) :=
  match e.name with
  | none => []
  | some name =>
    match descriptorPlaces.find? (·.1 = name) with
    | some (_, places) => places
    | none => if e.classes.has .desc then [0] else []

/-- A negative descriptor is only in sets that are inverted. -/
def hasDescriptor (set : NumberSet) (fd : Int) : Bool :=
  if fd < 0 then set.inverted else set.contains fd.toNat

/-! ## Evaluation -/

/-- Whether a call passes. A personality without a table passes no filter on numbers, and a number that is
not allocated passes no filter on descriptors. -/
def holds (f : Filter) (c : Call) (p : Personalities) : Bool :=
  match f with
  | syscall sets => sets[c.personality]?.any (·.contains c.number)
  | fd set =>
    ((p.get? c.personality).bind (·.get? c.number)).any fun e =>
      (placesOf e).any fun place => hasDescriptor set (c.descriptor place)
  | path paths => paths.meets c.paths

end Filter

end SyscallFilter
