/-! # Sets of numbers with a polarity

A set keeps one bit for each number up to a capacity that only grows, in words of 32 bits, and a polarity
that can turn the whole set into its complement. -/

namespace SyscallFilter

/-- Puts `n` into an ascending list, once. -/
def insertAscending (n : Nat) : List Nat → List Nat
  | [] => [n]
  | m :: ms => if n < m then n :: m :: ms else if n = m then m :: ms else m :: insertAscending n ms

theorem mem_insertAscending {n k : Nat} {ms : List Nat} :
    k ∈ insertAscending n ms ↔ k = n ∨ k ∈ ms := by
  induction ms with
  | nil => simp [insertAscending]
  | cons m ms ih =>
    unfold insertAscending
    split
    · simp
    · split
      · next h => subst h; simp
      · simp only [List.mem_cons, ih]
        constructor <;> rintro (h | h | h) <;> simp [h]

theorem pairwise_insertAscending {n : Nat} {ms : List Nat} (h : ms.Pairwise (· < ·)) :
    (insertAscending n ms).Pairwise (· < ·) := by
  induction ms with
  | nil => simp [insertAscending]
  | cons m ms ih =>
    have hm := List.pairwise_cons.1 h
    unfold insertAscending
    split
    · refine List.pairwise_cons.2 ⟨fun k hk => ?_, h⟩
      rcases List.mem_cons.1 hk with rfl | hk
      · assumption
      · have := hm.1 k hk; omega
    · split
      · exact h
      · refine List.pairwise_cons.2 ⟨fun k hk => ?_, ih hm.2⟩
        rcases mem_insertAscending.1 hk with rfl | hk
        · omega
        · exact hm.1 k hk

/-- The numbers whose bit is set, the count of words and the polarity. -/
structure NumberSet where
  bits : List Nat
  words : Nat
  inverted : Bool
  ascending : bits.Pairwise (· < ·)
  fits : ∀ n ∈ bits, n / 32 < words
  deriving DecidableEq

namespace NumberSet

def empty : NumberSet := ⟨[], 0, false, .nil, nofun⟩

/-- Sets the bit of `n`, with as many words as that takes. -/
def add (s : NumberSet) (n : Nat) : NumberSet where
  bits := insertAscending n s.bits
  words := max s.words (n / 32 + 1)
  inverted := s.inverted
  ascending := pairwise_insertAscending s.ascending
  fits k hk := by
    rcases mem_insertAscending.1 hk with rfl | hk
    · omega
    · have := s.fits k hk; omega

def addAll (s : NumberSet) (ns : List Nat) : NumberSet := ns.foldl add s

def invert (s : NumberSet) : NumberSet := { s with inverted := !s.inverted }

/-- `invert` done `k` times. -/
def invertTimes (s : NumberSet) : Nat → NumberSet
  | 0 => s
  | k + 1 => s.invert.invertTimes k

/-- No bit and no inversion; the words stay. -/
def clear (s : NumberSet) : NumberSet := ⟨[], s.words, false, .nil, nofun⟩

def contains (s : NumberSet) (n : Nat) : Bool := s.bits.contains n ^^ s.inverted

/-- How many numbers have a bit. -/
def capacity (s : NumberSet) : Nat := 32 * s.words

/-- No bit is set, whatever the polarity. -/
def isEmpty (s : NumberSet) : Bool := s.bits.isEmpty

/-- The word at place `i`: bit `b` is for the number `32 * i + b`. -/
def word (s : NumberSet) (i : Nat) : Nat :=
  (s.bits.filter (· / 32 = i)).foldl (fun w n => w ||| 1 <<< (n % 32)) 0

def wordList (s : NumberSet) : List Nat := (List.range s.words).map s.word

end NumberSet

end SyscallFilter
