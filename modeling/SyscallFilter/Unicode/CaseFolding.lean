import SyscallFilter.Unicode.RangeTable

/-! # Simple case folding -/

namespace SyscallFilter.Unicode

namespace CaseFolding

/-- Pairs of distinct characters with one simple folding: the distance of the first from the one before
it, and the distance to the second, doubled, less one if it lies below. -/
def text : String :=
  String.join
    ["2B2AB2AB2AB2AB2AB2AB2AB2AB2AB2AB2AAgd+B2AB2AB2AB2AB2AB2AB2AB2AAiYB2AB2AB2AB2AB2AB2AB2AH1",
     "-B1-B1-B1-B1-B1-B1-B1-B1-B1-B1-Agb+B1-B1-B1-B1-B1-B1-B1-B1-AgYB1-B1-B1-B1-B1-B1-B1-1x1eO",
     "A1gOL2AB2AB2AB2AB2AB2AAg6MB2AB2AB2AB2AB2AB2AB2AB2AB2AB2AB2AB2AB2AB2AB2AB2AB2AC2AB2AB2AB2",
     "AB2AB2AB2ABer+B1-B1-B1-B1-B1-B1-Ag4MB1-B1-B1-B1-B1-B1-B1-B1-B1-B1-B1-B1-B1-B1-B1-B1-B1-C",
     "1-B1-B1-B1-B1-B1-B1-B7SBCBBBCBBBCBBBCBBBCBBBCBBBCBBBCBBBCBBBCBBBCBBBCBBBCBBBCBBBCBBBCBBB",
     "CBBBCBBBCBBBCBBBCBBBCBBBCBBBCBBDCBBBCBBBCBBCCBBBCBBBCBBBCBBBCBBBCBBBCBBBCBBCCBBBCBBBCBBB",
     "CBBBCBBBCBBBCBBBCBBBCBBBCBBBCBBBCBBBCBBBCBBBCBBBCBBBCBBBCBBBCBBBCBBBCBBBCBBBCBBB7RBCBBBC",
     "BBBCBBBiXAgXBcGBdEBCBBBCBBBcyBCBBBcwBcwBCBBC4+BcUBcWBCBBBcwBc+B6CBdGBdCBCBBBaGB2j4CBdGBd",
     "KB8EBdMBCBBBCBBBCBBBdUBCBBBdUDCBBBdUBCBBBdSBdSBCBBBCBBBdWBCBBDCBBC3QFCAEBBACBDABBCAEBBAC",
     "BDABBCAEBBACBDABBCBBBCBBBCBBBCBBBCBBBCBBBCBBBCBBB4zBCBBBCBBBCBBBCBBBCBBBCBBBCBBBCBBBCBBC",
     "CAEBBACBDABBCBBB6BB3PBCBBBCBBBCBBBCBBBCBBBCBBBCBBBCBBBCBBBCBBBCBBBCBBBCBBBCBBBCBBBCBBBCB",
     "BBCBBBCBBBCBBB8DCCBBBCBBBCBBBCBBBCBBBCBBBCBBBCBBBCBBHl2WBCBBBaFBl2QBl3+Bl3+BCBBBcFB4KB4O",
     "BCBBBCBBBCBBBCBBBCBBBl1+Bl1YBl1yBdDBcxCcZBcZCcTCcVB2ik+EcZB2ikWCczB2imOB2iiQB2ikICdBBdFB",
     "2ikIBkvOB2ikCDdFCkvwBdJDdLIkuODdTC2ikGBdTE2iiUBdTB4JBdRBdRB4NGdVL2ihKB2ihE5H5IA7IAe7S1LC",
     "BBBCBBDCBBE8EB8EB8EC7IH2MC2KB2KB2KC4AC3+B3+Be4GB2AB2AA3yB2AB2AB2AA6AB2AB2AB2AA3SA5YB5HA2",
     "AAe2KB2AA5MB2AB1eNA2AB2AB2AB2AB2AA3MB2AA5AC1+A2AB2AB2AB2AA2+B2AB2AB2AAenwB2AB2AB2LB2JB2J",
     "B2JBe3GB1-B1-A1yB1-B1-B1-A4AB1-B1-B1-A1SA3YB7HA1-Ae0KB1-A3MB1-B1gNA1-B1-B1-B1-B1-A1MB1-A",
     "3AB1zACB1-ABB1-B1-B1-A+B1-B1-B1-AelwB1-B1-B3-B3zB3zBQB3xA1xB3RA1RA2GE2zAzB3LA1LBPBCBBBCB",
     "BBCBBBCBBBCBBBCBBBCBBBCBBBCBBBCBBBCBBBCBBB5LA3LB4-A2-BOB7HB5XA3XA2FB5-A3-CCBBBNBCBBC8DB8",
     "DB8DB5AB5AB5AB5AB5AB5AB5AB5AB5AB5AB5AB5AB5AB5AB5AB5AB2AB2AB2AAc6yB2AB2AAc6wB2AB2AB2AB2AB",
     "2AB2AB2AB2AB2AB2AAc6IB2AB2AB2AAc6EB2AAc6EAc6GB2AB2AB2AB2AB2AB2AB2AB2AAc5YB2AB2AB2AB2AB2A",
     "B1-B1-B1-Ac4yB1-B1-Ac4wB1-B1-B1-B1-B1-B1-B1-B1-B1-B1-Ac4IB1-B1-B1-Ac4EB1-Ac4EAc4GB1-B1-B",
     "1-B1-B1-B1-B1-B1-Ac3YB1-B1-B1-B1-B1-B4-B4-B4-B4-B4-B4-B4-B4-B4-B4-B4-B4-B4-B4-B4-B4-BCBB",
     "BCAc2KBBAc2IBCBBBCBBBCBBBCBBBCBBBCBBBCBBBCBBBCBBBCBBBCBBBCBBBCBBBCBBBCBBJCBBBCBBBCBBBCBB",
     "BCBBBCBBBCBBBCBBBCBBBCBBBCBBBCBBBCBBBCBBBCBBBCBBBCBBBCBBBCBBBCBBBCBBBCBBBCBBBCBBBCBBBCBB",
     "BCBBB+BCBBBCBBBCBBBCBBBCBBBCBBBCBBBzBCBBBCBBBCBBBCBBBCBBBCBBBCBBBCBBBCBBBCBBBCBBBCBBBCBB",
     "BCBBBCBBBCBBBCBBBCBBBCBBBCBBBCBBBCBBBCBBBCBBBCBBBCBBBCBBBCBBBCBBBCBBBCBBBCBBBCBBBCBBBCBB",
     "BCBBBCBBBCBBBCBBBCBBBCBBBCBBBCBBBCBBBCBBBCBBBCBBBCBBC3AB3AB3AB3AB3AB3AB3AB3AB3AB3AB3AB3A",
     "B3AB3AB3AB3AB3AB3AB3AB3AB3AB3AB3AB3AB3AB3AB3AB3AB3AB3AB3AB3AB3AB3AB3AB3AB3AB3AL2-B2-B2-B",
     "2-B2-B2-B2-B2-B2-B2-B2-B2-B2-B2-B2-B2-B2-B2-B2-B2-B2-B2-B2-B2-B2-B2-B2-B2-B2-B2-B2-B2-B2",
     "-B2-B2-B2-B2-B2-2owe6ABe6ABe6ABe6ABe6ABe6ABe6ABe6ABe6ABe6ABe6ABe6ABe6ABe6ABe6ABe6ABe6ABe",
     "6ABe6ABe6ABe6ABe6ABe6ABe6ABe6ABe6ABe6ABe6ABe6ABe6ABe6ABe6ABe6ABe6ABe6ABe6ABe6ABe6ACe6AGe",
     "6AD5sAB5sAB5sAB5sAB5sAB5sAB5sAB5sAB5sAB5sAB5sAB5sAB5sAB5sAB5sAB5sAB5sAB5sAB5sAB5sAB5sAB5",
     "sAB5sAB5sAB5sAB5sAB5sAB5sAB5sAB5sAB5sAB5sAB5sAB5sAB5sAB5sAB5sAB5sAB5sAB5sAB5sAB5sAB5sAD5",
     "sAB5sAB5sAlB2btAB2btAB2btAB2btAB2btAB2btAB2btAB2btAB2btAB2btAB2btAB2btAB2btAB2btAB2btAB2",
     "btAB2btAB2btAB2btAB2btAB2btAB2btAB2btAB2btAB2btAB2btAB2btAB2btAB2btAB2btAB2btAB2btAB2btA",
     "B2btAB2btAB2btAB2btAB2btAB2btAB2btAB2btAB2btAB2btAB2btAB2btAB2btAB2btAB2btAB2btAB2btAB2b",
     "tAB2btAB2btAB2btAB2btAB2btAB2btAB2btAB2btAB2btAB2btAB2btAB2btAB2btAB2btAB2btAB2btAB2btAB",
     "2btAB2btAB2btAB2btAB2btAB2btAB2btAB2btAB2btAB2btAB2btAB2btABQBQBQBQBQBQDPBPBPBPBPBP24Dc6",
     "xAc4xBc6ZAc4ZBc6HAc4HBc6DAc4DBc6DAc4DACBc6FAc4FABBc5XAc3XBc2JAc2HB24sEA24sGBCBBG5r-B5r-B",
     "5r-B5r-B5r-B5r-B5r-B5r-B5r-B5r-B5r-B5r-B5r-B5r-B5r-B5r-B5r-B5r-B5r-B5r-B5r-B5r-B5r-B5r-B",
     "5r-B5r-B5r-B5r-B5r-B5r-B5r-B5r-B5r-B5r-B5r-B5r-B5r-B5r-B5r-B5r-B5r-B5r-B5r-D5r-B5r-B5r-5",
     "w250IE7eMR253Q3SCBBBCBBBCBBBCBBBCBBBCBBBCBBBCBBBCBBBCBBBCBBBCBBBCBBBCBBBCBBBCBBBCBBBCBBB",
     "CBBBCBBBCBBBCBBBCBBBCBBBCBBBCBBBCBBBCBBBCBBBCBBBCBBBCBBBCBBBCBBBCBBBCBBBCBBBCBBBCBBBCBBB",
     "CBBBCBBBCBBBCBBBCBBBCBBBCBBBCBBBCA3WBBA3UBCBBBCBBBCBBBCBBBCBBBCBBBCBBBCBBBCBBBCBBBCBBBCB",
     "BBCBBBCBBBCBBBCBBBCBBBCBBBCBBBCBBBCBBBCBBBCBBBCBBBCBBBCBBG3VA3TDerzCCBBBCBBBCBBBCBBBCBBB",
     "CBBBCBBBCBBBCBBBCBBBCBBBCBBBCBBBCBBBCBBBCBBBCBBBCBBBCBBBCBBBCBBBCBBBCBBBCBBBCBBBCBBBCBBB",
     "CBBBCBBBCBBBCBBBCBBBCBBBCBBBCBBBCBBBCBBBCBBBCBBBCBBBCBBBCBBBCBBBCBBBCBBBCBBBCBBBCBBBQBQB",
     "QBQBQBQBQBQBPBPBPBPBPBPBPBPBQBQBQBQBQBQDPBPBPBPBPBPDQBQBQBQBQBQBQBQBPBPBPBPBPBPBPBPBQBQB",
     "QBQBQBQBQBQBPBPBPBPBPBPBPBPBQBQBQBQBQBQDPBPBPBPBPBPEQCQCQCQCPCPCPCPBQBQBQBQBQBQBQBQBPBPB",
     "PBPBPBPBPBPB4UB4UB5MB5MB5MB5MB6IB6IB8AB8AB7AB7AB7yB7yDQBQBQBQBQBQBQBQBPBPBPBPBPBPBPBPBQB",
     "QBQBQBQBQBQBQBPBPBPBPBPBPBPBPBQBQBQBQBQBQBQBQBPBPBPBPBPBPBPBPBQBQCSFPBPB4TB4TBRCe7RAe2JA",
     "e0JFSF5LB5LB5LB5LBREQBQCe4FFPBPB6HB6HFQBQCe3FCODPBPB6-B6-BNHSF7-B7-B7xB7xBR9KenZAelZEgdz",
     "AgbzBg6LAg4LH1Yy1XS1AB1AB1AB1AB1AB1AB1AB1AB1AB1AB1AB1AB1AB1AB1AB1AB-B-B-B-B-B-B-B-B-B-B-",
     "B-B-B-B-B-ECBBpS1UB1UB1UB1UB1UB1UB1UB1UB1UB1UB1UB1UB1UB1UB1UB1UB1UB1UB1UB1UB1UB1UB1UB1UB",
     "1UB1UB1TB1TB1TB1TB1TB1TB1TB1TB1TB1TB1TB1TB1TB1TB1TB1TB1TB1TB1TB1TB1TB1TB1TB1TB1TB1T1oX3A",
     "B3AB3AB3AB3AB3AB3AB3AB3AB3AB3AB3AB3AB3AB3AB3AB3AB3AB3AB3AB3AB3AB3AB3AB3AB3AB3AB3AB3AB3AB",
     "3AB3AB3AB3AB3AB3AB3AB3AB3AB3AB3AB3AB3AB3AB3AB3AB3AB3AB2-B2-B2-B2-B2-B2-B2-B2-B2-B2-B2-B2",
     "-B2-B2-B2-B2-B2-B2-B2-B2-B2-B2-B2-B2-B2-B2-B2-B2-B2-B2-B2-B2-B2-B2-B2-B2-B2-B2-B2-B2-B2-",
     "B2-B2-B2-B2-B2-B2-B2-BCBBBkvNB7eLBkuNBl2VBl2PBCBBBCBBBCBBBl1XBkvZBl1zBl1xCCBBCCBBIl3zBl3",
     "zBCBBBCBBBCBBBCBBBCBBBCBBBCBBBCBBBCBBBCBBBCBBBCBBBCBBBCBBBCBBBCBBBCBBBCBBBCBBBCBBBCBBBCB",
     "BBCBBBCBBBCBBBCBBBCBBBCBBBCBBBCBBBCBBBCBBBCBBBCBBBCBBBCBBBCBBBCBBBCBBBCBBBCBBBCBBBCBBBCB",
     "BBCBBBCBBBCBBBCBBBCBBBCBBICBBBCBBECBBNe5-Be5-Be5-Be5-Be5-Be5-Be5-Be5-Be5-Be5-Be5-Be5-Be5",
     "-Be5-Be5-Be5-Be5-Be5-Be5-Be5-Be5-Be5-Be5-Be5-Be5-Be5-Be5-Be5-Be5-Be5-Be5-Be5-Be5-Be5-Be5",
     "-Be5-Be5-Be5-Ce5-Ge5-u8TCBBBCBBBCBBBCBBBCBBB24sDACB24sFABBCBBBCBBBCBBBCBBBCBBBCBBBCBBBCB",
     "BBCBBBCBBBCBBBCBBBCBBBCBBBCBBBCBBBCBBTCBBBCBBBCBBBCBBBCBBBCBBBCBBBCBBBCBBBCBBBCBBBCBBBCB",
     "BBCBB4HCBBBCBBBCBBBCBBBCBBBCBBBCBBDCBBBCBBBCBBBCBBBCBBBCBBBCBBBCBBBCBBBCBBBCBBBCBBBCBBBC",
     "BBBCBBBCBBBCBBBCBBBCBBBCBBBCBBBCBBBCBBBCBBBCBBBCBBBCBBBCBBBCBBBCBBBCBBKCBBBCBBB250HBCBBB",
     "CBBBCBBBCBBBCBBECBBB2iiPDCBBBCBBB3ACCBBBCBBBCBBBCBBBCBBBCBBBCBBBCBBBCBBBCBBB2ikHB2ikzB2i",
     "kVB2ikBB2ikHC2ihDB2iiTB2ihJB1qABCBBBCBBBCBBBCBBBCBBBCBBBCBBBCBBB2-B2ikFB253PBCBBBCBBB2im",
     "NBCBBDCBBFCBBBCBBBCBBB2j4BZCBBqz1p-z2bs-B2bs-B2bs-B2bs-B2bs-B2bs-B2bs-B2bs-B2bs-B2bs-B2b",
     "s-B2bs-B2bs-B2bs-B2bs-B2bs-B2bs-B2bs-B2bs-B2bs-B2bs-B2bs-B2bs-B2bs-B2bs-B2bs-B2bs-B2bs-B",
     "2bs-B2bs-B2bs-B2bs-B2bs-B2bs-B2bs-B2bs-B2bs-B2bs-B2bs-B2bs-B2bs-B2bs-B2bs-B2bs-B2bs-B2bs",
     "-B2bs-B2bs-B2bs-B2bs-B2bs-B2bs-B2bs-B2bs-B2bs-B2bs-B2bs-B2bs-B2bs-B2bs-B2bs-B2bs-B2bs-B2",
     "bs-B2bs-B2bs-B2bs-B2bs-B2bs-B2bs-B2bs-B2bs-B2bs-B2bs-B2bs-B2bs-B2bs-B2bs-B2bs-B2bs-jqGCB",
     "B10x2AB2AB2AB2AB2AB2AB2AB2AB2AB2AB2AB2AB2AB2AB2AB2AB2AB2AB2AB2AB2AB2AB2AB2AB2AB2AH1-B1-B",
     "1-B1-B1-B1-B1-B1-B1-B1-B1-B1-B1-B1-B1-B1-B1-B1-B1-B1-B1-B1-B1-B1-B1-B1-15G2QB2QB2QB2QB2Q",
     "B2QB2QB2QB2QB2QB2QB2QB2QB2QB2QB2QB2QB2QB2QB2QB2QB2QB2QB2QB2QB2QB2QB2QB2QB2QB2QB2QB2QB2QB",
     "2QB2QB2QB2QB2QB2QB2PB2PB2PB2PB2PB2PB2PB2PB2PB2PB2PB2PB2PB2PB2PB2PB2PB2PB2PB2PB2PB2PB2PB2",
     "PB2PB2PB2PB2PB2PB2PB2PB2PB2PB2PB2PB2PB2PB2PB2PB2P3B2QB2QB2QB2QB2QB2QB2QB2QB2QB2QB2QB2QB2",
     "QB2QB2QB2QB2QB2QB2QB2QB2QB2QB2QB2QB2QB2QB2QB2QB2QB2QB2QB2QB2QB2QB2QB2QF2PB2PB2PB2PB2PB2P",
     "B2PB2PB2PB2PB2PB2PB2PB2PB2PB2PB2PB2PB2PB2PB2PB2PB2PB2PB2PB2PB2PB2PB2PB2PB2PB2PB2PB2PB2PB",
     "2P3V2OB2OB2OB2OB2OB2OB2OB2OB2OB2OB2OC2OB2OB2OB2OB2OB2OB2OB2OB2OB2OB2OB2OB2OB2OB2OC2OB2OB",
     "2OB2OB2OB2OB2OC2OB2OC2NB2NB2NB2NB2NB2NB2NB2NB2NB2NB2NC2NB2NB2NB2NB2NB2NB2NB2NB2NB2NB2NB2",
     "NB2NB2NB2NC2NB2NB2NB2NB2NB2NB2NC2NB2N1mE4AB4AB4AB4AB4AB4AB4AB4AB4AB4AB4AB4AB4AB4AB4AB4AB",
     "4AB4AB4AB4AB4AB4AB4AB4AB4AB4AB4AB4AB4AB4AB4AB4AB4AB4AB4AB4AB4AB4AB4AB4AB4AB4AB4AB4AB4AB4",
     "AB4AB4AB4AB4AB4AO3-B3-B3-B3-B3-B3-B3-B3-B3-B3-B3-B3-B3-B3-B3-B3-B3-B3-B3-B3-B3-B3-B3-B3-",
     "B3-B3-B3-B3-B3-B3-B3-B3-B3-B3-B3-B3-B3-B3-B3-B3-B3-B3-B3-B3-B3-B3-B3-B3-B3-B3-B3-2+2AB2A",
     "B2AB2AB2AB2AB2AB2AB2AB2AB2AB2AB2AB2AB2AB2AB2AB2AB2AB2AB2AB2AL1-B1-B1-B1-B1-B1-B1-B1-B1-B",
     "1-B1-B1-B1-B1-B1-B1-B1-B1-B1-B1-B1-B1-2ox2AB2AB2AB2AB2AB2AB2AB2AB2AB2AB2AB2AB2AB2AB2AB2A",
     "B2AB2AB2AB2AB2AB2AB2AB2AB2AB2AB2AB2AB2AB2AB2AB2AB1-B1-B1-B1-B1-B1-B1-B1-B1-B1-B1-B1-B1-B",
     "1-B1-B1-B1-B1-B1-B1-B1-B1-B1-B1-B1-B1-B1-B1-B1-B1-B1-B1-lbB2AB2AB2AB2AB2AB2AB2AB2AB2AB2A",
     "B2AB2AB2AB2AB2AB2AB2AB2AB2AB2AB2AB2AB2AB2AB2AB2AB2AB2AB2AB2AB2AB2AB1-B1-B1-B1-B1-B1-B1-B",
     "1-B1-B1-B1-B1-B1-B1-B1-B1-B1-B1-B1-B1-B1-B1-B1-B1-B1-B1-B1-B1-B1-B1-B1-B1-ukB2EB2EB2EB2E",
     "B2EB2EB2EB2EB2EB2EB2EB2EB2EB2EB2EB2EB2EB2EB2EB2EB2EB2EB2EB2EB2EB2EB2EB2EB2EB2EB2EB2EB2EB",
     "2EB2DB2DB2DB2DB2DB2DB2DB2DB2DB2DB2DB2DB2DB2DB2DB2DB2DB2DB2DB2DB2DB2DB2DB2DB2DB2DB2DB2DB2",
     "DB2DB2DB2DB2DB2D"]

/-- The pairs that `numbers` stand for, after one that begins at `last`. -/
def decode : Nat → List Nat → List (Nat × Nat)
  | last, gap :: d :: rest =>
    let n := last + gap
    (n, if d % 2 = 0 then n + d / 2 else n - (d + 1) / 2) :: decode n rest
  | _, _ => []

/-- All pairs, by first character. -/
def pairs : Array (Nat × Nat) := (decode 0 (numbers text)).toArray

/-- The least place between `lo` and `hi` whose pair begins at `n` or later. -/
def lowerBound (n lo hi : Nat) : Nat :=
  if lo < hi then
    let mid := (lo + hi) / 2
    match pairs[mid]? with
    | none => lo
    | some (first, _) => if first < n then lowerBound n (mid + 1) hi else lowerBound n lo mid
  else lo
termination_by hi - lo
decreasing_by all_goals omega

/-- The code points that have the simple folding of another one from `first` to `last`. -/
def others (first last : Nat) : List Nat :=
  (pairs.extract (lowerBound first 0 pairs.size) (lowerBound (last + 1) 0 pairs.size)).toList.map (·.2)

end CaseFolding

/-- The set with every character whose simple folding is that of a member. -/
def RangeTable.folded (t : RangeTable) : RangeTable :=
  .ofRuns (t.runs.toList ++ t.runs.toList.flatMap fun (first, last) =>
    (CaseFolding.others first last).map fun n => (n, n))

/-- The set with both cases of every member that is an ASCII letter. -/
def RangeTable.asciiFolded (t : RangeTable) : RangeTable :=
  let shared (first last a b : Nat) := if max first a ≤ min last b then [(max first a, min last b)] else []
  .ofRuns (t.runs.toList ++ t.runs.toList.flatMap fun (first, last) =>
    (shared first last 65 90).map (fun (a, b) => (a + 32, b + 32)) ++
      (shared first last 97 122).map fun (a, b) => (a - 32, b - 32))

end SyscallFilter.Unicode
