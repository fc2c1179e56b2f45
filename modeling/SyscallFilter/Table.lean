import SyscallFilter.Flags

/-! # Tables of system calls, one for each personality -/

namespace SyscallFilter

/-- What a call does or works on. -/
inductive SyscallClass where
  | desc
  | file
  | ipc
  | network
  | process
  | signal
  | memory
  | stat
  | lstat
  | fstat
  /-- Any of the `stat` family. -/
  | statLike
  | statfs
  | fstatfs
  /-- Any of the `statfs` family. -/
  | statfsLike
  deriving DecidableEq, Repr

instance : Flag SyscallClass where
  all := [.desc, .file, .ipc, .network, .process, .signal, .memory, .stat, .lstat, .fstat, .statLike,
    .statfs, .fstatfs, .statfsLike]
  bit
    | .desc => 0
    | .file => 1
    | .ipc => 2
    | .network => 3
    | .process => 4
    | .signal => 5
    | .memory => 6
    | .stat => 7
    | .lstat => 8
    | .fstat => 9
    | .statLike => 10
    | .statfs => 11
    | .fstatfs => 12
    | .statfsLike => 13
  name
    | .desc => "DESC"
    | .file => "FILE"
    | .ipc => "IPC"
    | .network => "NETWORK"
    | .process => "PROCESS"
    | .signal => "SIGNAL"
    | .memory => "MEMORY"
    | .stat => "STAT"
    | .lstat => "LSTAT"
    | .fstat => "FSTAT"
    | .statLike => "STAT_LIKE"
    | .statfs => "STATFS"
    | .fstatfs => "FSTATFS"
    | .statfsLike => "STATFS_LIKE"

namespace SyscallClass

/-- The words for classes. A bare word is only understood in a clause. -/
def words : List (String × SyscallClass) :=
  [("desc", desc), ("file", file), ("memory", memory), ("process", process), ("signal", signal),
   ("ipc", ipc), ("network", network), ("%desc", desc), ("%file", file), ("%memory", memory),
   ("%process", process), ("%signal", signal), ("%ipc", ipc), ("%network", network), ("%stat", stat),
   ("%lstat", lstat), ("%fstat", fstat), ("%%stat", statLike), ("%statfs", statfs),
   ("%fstatfs", fstatfs), ("%%statfs", statfsLike)]

/-- The class that a word names; `bare` says whether words without a percent sign are understood. -/
def byWord? (word : String) (bare : Bool) : Option SyscallClass :=
  if bare || word.toList.head? = some '%' then (words.find? (·.1 = word)).map (·.2) else none

end SyscallClass

/-- One number of a table; without a name it is not allocated. -/
structure Entry where
  name : Option String
  classes : Flags SyscallClass
  deriving DecidableEq, Repr

/-- The calls of one personality, by number. -/
structure Table where
  abi : String
  entries : List Entry
  deriving DecidableEq, Repr

namespace Table

def size (t : Table) : Nat := t.entries.length

def get? (t : Table) (number : Nat) : Option Entry := t.entries[number]?

def nameOf? (t : Table) (number : Nat) : Option String := (t.get? number).bind Entry.name

/-- The least number with a name. -/
def numberOf? (t : Table) (name : String) : Option Nat := t.entries.findIdx? (·.name = some name)

/-- The allocated entries among `entries`, which are numbered from `start`. -/
def allocatedFrom : Nat → List Entry → List (Nat × String × Flags SyscallClass)
  | _, [] => []
  | start, e :: es =>
    match e.name with
    | some name => (start, name, e.classes) :: allocatedFrom (start + 1) es
    | none => allocatedFrom (start + 1) es

/-- Number, name and classes of every allocated entry, in order. -/
def allocated (t : Table) : List (Nat × String × Flags SyscallClass) := allocatedFrom 0 t.entries

end Table

/-- The personalities that calls can have, by number. There is at least one. -/
structure Personalities where
  tables : List Table
  nonempty : tables ≠ []
  deriving DecidableEq

namespace Personalities

def ofList? (tables : List Table) : Option Personalities :=
  if h : tables = [] then none else some ⟨tables, h⟩

def count (p : Personalities) : Nat := p.tables.length

def get? (p : Personalities) (personality : Nat) : Option Table := p.tables[personality]?

end Personalities

end SyscallFilter
