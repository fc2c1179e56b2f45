/-! # Sets of named flags -/

namespace SyscallFilter

/-- A kind of flag: each has a bit and a name, and `all` lists them from the lowest bit up. -/
class Flag (α : Type) where
  all : List α
  bit : α → Nat
  name : α → String

/-- A set of flags. Bits that have no name are kept as they are. -/
structure Flags (α : Type) where
  bits : Nat
  deriving DecidableEq, Repr

namespace Flags

variable {α : Type} [Flag α]

def empty : Flags α := ⟨0⟩

def single (a : α) : Flags α := ⟨1 <<< Flag.bit a⟩

def has (s : Flags α) (a : α) : Bool := s.bits.testBit (Flag.bit a)

def union (s t : Flags α) : Flags α := ⟨s.bits ||| t.bits⟩

/-- The flags of `s` that are not in `t`. -/
def diff (s t : Flags α) : Flags α := ⟨s.bits ^^^ (s.bits &&& t.bits)⟩

def insert (s : Flags α) (a : α) : Flags α := s.union (single a)

def erase (s : Flags α) (a : α) : Flags α := s.diff (single a)

def ofList (flags : List α) : Flags α := flags.foldl insert empty

/-- Only the bits that have names. -/
def known (s : Flags α) : Flags α := ⟨s.bits &&& (ofList (Flag.all : List α)).bits⟩

def toList (s : Flags α) : List α := Flag.all.filter s.has

/-- The names in order of their bits, and last the bits without a name as one hexadecimal number. -/
def text (s : Flags α) : String :=
  let unnamed := (s.diff s.known).bits
  let names := s.toList.map Flag.name
  let extra := if unnamed = 0 then [] else ["0x" ++ String.ofList (Nat.toDigits 16 unnamed)]
  String.intercalate " | " (names ++ extra)

end Flags

end SyscallFilter
