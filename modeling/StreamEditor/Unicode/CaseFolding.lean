/-
# Characters that differ in case alone

The simple case foldings sort the characters into orbits: two characters lie in one orbit when
they fold to the same character, as `k`, `K` and the Kelvin sign do. A set of code points is
closed under case by adding every orbit that it meets.

Key definitions: `CaseFolding.orbits`, `CaseFolding.orbit?`, `CaseFolding.close`.
-/
import StreamEditor.Unicode.Packed

namespace StreamEditor
namespace Unicode
namespace CaseFolding

/-- The orbits, packed: the size of each, its least member as a distance from the least member
of the orbit before it, then each further member as a distance from the one before. -/
def packed : String :=
  String.join [
    "cCnBgcbBgcbBgcbBgcbBgcbBgcbBgcbBgcbBgcbBgdbBgMKlcbBgcbBgcbBgcbBgcbBgcbBgcbBgdbBgKicbBgcbBgcb",
    "BgcbBgcbBgcbBgcbBgdDnBCpBgclBgcbBgcbBgcbBgcbBgdbBgMFucbBgcbBgcbBgcbBgcbBgcbBgcbBgcbBgcbBgcbB",
    "gcbBgcbBgcbBgcbBgcbBgcbBgcbBgccBgcbBgcbBgcbBgcbBgcbBgcbBgcbLGxcBgErcbbccbccbccbccbccbccbccbc",
    "cbccbccbccbccbccbccbccbccbccbccbccbccbccbccbccbcebccbccbcdbccbccbccbccbccbccbccbcdbccbccbccb",
    "ccbccbccbccbccbccbccbccbccbccbccbccbccbccbccbccbccbccbccbcdbccbccbcdHncbIccbbccbccHycbbccHxc",
    "bHxcbbcdDbcbHucbHvcbbccHxcbHzcbDtcbIdcbIbcbbccGhcbCKYzcbIdcbIfcbFacbIgcbbccbccbccIkcbbccIkcd",
    "bccIkcbbccIjcbIjcbbccbccIlcbbcebcdCedfbbddbbddbbcdbccbccbccbccbccbccbccbcdbccbccbccbccbccbcc",
    "bccbccbddbbcdbcebccbccbccbccbccbccbccbccbccbccbccbccbccbccbccbccbccbccbccbcebccbccbccbccbccb",
    "ccbccbccbciPZfcbbcdPZccbPZzcbPZzcbbcdCrcbCtcbbccbccbccbccbccPYtcbPYqcbPYsckCKPrcfCKPncdCKQpc",
    "bCKOecbCKPgceCKPgcbPXfcbCKPdcfPXlcmPWpcfCKPfcfCKOgcwCKNlcbCKNieGlDgBgKPxcBrbccbcebcfFacbFacb",
    "FaccEmchBmccBlcbBlcbBlccCmccClcbClcbKShcbBgdbBgBecbBgcbBgdbBgCmcbBgcbBgebBgzBjdcBgCccbBgccBg",
    "cbBgcbBgdbBgwdbBgBwdcBfbcbBgcbBgdbBgpcbBgcbBgdbBgLDdcbBgcbBgcfKRrcBficjbccbccbccbccbccbccbcc",
    "bccbccbccbccbcehcfbcdbcgDccbDccbDccbDccbDccbDccbDccbDccbDccbDccbDccbDccbDccbDccbDccbDccbBgcb",
    "BgdbBgJFicbBgdbBgJFhcbBgcbBgcbBgcbBgcbBgcbBgcbBgcbBgcbBgdbBgJEycbBgcbBgdbBgJEwebBgJEwbcbBgcb",
    "BgcbBgcbBgcbBgcbBgcbBgdbBgJEqcbBgcbBgcbBgcbBgcbBgcBxbdcbJDsccbccbccbccbccbccbccbccbccbccbccb",
    "ccbccbccbccbckbccbccbccbccbccbccbccbccbccbccbccbccbccbccbccbccbccbccbccbccbccbccbccbccbccbcc",
    "bccpcbbccbccbccbccbccbccbcdbccbccbccbccbccbccbccbccbccbccbccbccbccbccbccbccbccbccbccbccbccbc",
    "cbccbccbccbccbccbccbccbccbccbccbccbccbccbccbccbccbccbccbccbccbccbccbccbccbccbcdBwcbBwcbBwcbB",
    "wcbBwcbBwcbBwcbBwcbBwcbBwcbBwcbBwcbBwcbBwcbBwcbBwcbBwcbBwcbBwcbBwcbBwcbBwcbBwcbBwcbBwcbBwcbB",
    "wcbBwcbBwcbBwcbBwcbBwcbBwcbBwcbBwcbBwcbBwcbBwcEHeKTkcbKTkcbKTkcbKTkcbKTkcbKTkcbKTkcbKTkcbKTk",
    "cbKTkcbKTkcbKTkcbKTkcbKTkcbKTkcbKTkcbKTkcbKTkcbKTkcbKTkcbKTkcbKTkcbKTkcbKTkcbKTkcbKTkcbKTkcb",
    "KTkcbKTkcbKTkcbKTkcbKTkcbKTkcbKTkcbKTkcbKTkcbKTkcbKTkccKTkcgKTkcdELscbELscbELscbELscbELscbEL",
    "scbELscbELscbELscbELscbELscbELscbELscbELscbELscbELscbELscbELscbELscbELscbELscbELscbELscbELsc",
    "bELscbELscbELscbELscbELscbELscbELscbELscbELscbELscbELscbELscbELscbELscbELscbELscbELscbELscbE",
    "LscdELscbELscbELscZxCFMucbCFMucbCFMucbCFMucbCFMucbCFMucbCFMucbCFMucbCFMucbCFMucbCFMucbCFMucb",
    "CFMucbCFMucbCFMucbCFMucbCFMucbCFMucbCFMucbCFMucbCFMucbCFMucbCFMucbCFMucbCFMucbCFMucbCFMucbCF",
    "MucbCFMucbCFMucbCFMucbCFMucbCFMucbCFMucbCFMucbCFMucbCFMucbCFMucbCFMucbCFMucbCFMucbCFMucbCFMu",
    "cbCFMucbCFMucbCFMucbCFMucbCFMucbCFMucbCFMucbCFMucbCFMucbCFMucbCFMucbCFMucbCFMucbCFMucbCFMucb",
    "CFMucbCFMucbCFMucbCFMucbCFMucbCFMucbCFMucbCFMucbCFMucbCFMucbCFMucbCFMucbCFMucbCFMucbCFMucbCF",
    "MucbCFMucbCFMucbCFMucbCFMucbCFMucbCFMucbicbicbicbicbicbidDGlCAEkbcbbcJgCAGyceFQscrCAIycEkbcc",
    "bccbccbccbccbccbccbccbccbccbccbccbccbccbccbccbccbccbccbccbccbccbccbccbccbccbccbccbccbccbccbc",
    "cbccbccbccbccbccbccbccbccbccbccbccbccbccbccbccbdcbCgccbccbccbccbccbccbccbccbccbccbccbccbccbc",
    "cbccbccbccbccbccbccbccbccbccbccbccbccbcmbccbccbccbccbccbccbccbccbccbccbccbccbccbccbccbccbccb",
    "ccbccbccbccbccbccbccbccbccbccbccbccbccbccbccbccbccbccbccbccbccbccbccbccbccbccbccbccbccbccbcc",
    "icbicbicbicbicbicbicbicjicbicbicbicbicbiclicbicbicbicbicbicbicbicjicbicbicbicbicbicbicbicjic",
    "bicbicbicbicbicmiccicciccicjicbicbicbicbicbicbicbicjCwcbCwcbDicbDicbDicbDicbDwcbDwcbEycbEycb",
    "EicbEicbEwcbEwcdicbicbicbicbicbicbicbicjicbicbicbicbicbicbicbicjicbicbicbicbicbicbicbicjicbi",
    "ccjcqjcnicbicpicbicehcojcMhBccBuqcbqcbqcbqcbqcbqcbqcbqcbqcbqcbqcbqcbqcbqcbqcbqcubcBFnBacbBac",
    "bBacbBacbBacbBacbBacbBacbBacbBacbBacbBacbBacbBacbBacbBacbBacbBacbBacbBacbBacbBacbBacbBacbBac",
    "bBacCSvBwcbBwcbBwcbBwcbBwcbBwcbBwcbBwcbBwcbBwcbBwcbBwcbBwcbBwcbBwcbBwcbBwcbBwcbBwcbBwcbBwcbB",
    "wcbBwcbBwcbBwcbBwcbBwcbBwcbBwcbBwcbBwcbBwcbBwcbBwcbBwcbBwcbBwcbBwcbBwcbBwcbBwcbBwcbBwcbBwcbB",
    "wcbBwcbBwcbBwcBxbchbccbccbchbcdbclbccbccbccbccbccbccbccbccbccbccbccbccbccbccbccbccbccbccbccb",
    "ccbccbccbccbccbccbccbccbccbccbccbccbccbccbccbccbccbccbccbccbccbccbccbccbccbccbccbccbccbccbcj",
    "bccbcfbcBTYkbccbccbccbccbcebccbccbccbccbccbccbccbccbccbccbccbccbccbccbccbccbcubccbccbccbccbc",
    "cbccbccbccbccbccbccbccbccbcFgbccbccbccbccbccbccbcebccbccbccbccbccbccbccbccbccbccbccbccbccbcc",
    "bccbccbccbccbccbccbccbccbccbccbccbccbccbccbccbccbclbccbcdbccbccbccbccbcfbcfbccbccBwccbccbccb",
    "ccbccbccbccbccbccbccbclBJscbbccbccbccbccbccbccbccbcfbccbcdbcebcgbccbccbcBbbcBFLwbcBOmBgcbBgc",
    "bBgcbBgcbBgcbBgcbBgcbBgcbBgcbBgcbBgcbBgcbBgcbBgcbBgcbBgcbBgcbBgcbBgcbBgcbBgcbBgcbBgcbBgcbBgc",
    "bBgcBVaBocbBocbBocbBocbBocbBocbBocbBocbBocbBocbBocbBocbBocbBocbBocbBocbBocbBocbBocbBocbBocbB",
    "ocbBocbBocbBocbBocbBocbBocbBocbBocbBocbBocbBocbBocbBocbBocbBocbBocbBocbBocFhBocbBocbBocbBocb",
    "BocbBocbBocbBocbBocbBocbBocbBocbBocbBocbBocbBocbBocbBocbBocbBocbBocbBocbBocbBocbBocbBocbBocb",
    "BocbBocbBocbBocbBocbBocbBocbBocbBocGbBncbBncbBncbBncbBncbBncbBncbBncbBncbBncbBnccBncbBncbBnc",
    "bBncbBncbBncbBncbBncbBncbBncbBncbBncbBncbBncbBnccBncbBncbBncbBncbBncbBncbBnccBncbBncCQdCmcbC",
    "mcbCmcbCmcbCmcbCmcbCmcbCmcbCmcbCmcbCmcbCmcbCmcbCmcbCmcbCmcbCmcbCmcbCmcbCmcbCmcbCmcbCmcbCmcbC",
    "mcbCmcbCmcbCmcbCmcbCmcbCmcbCmcbCmcbCmcbCmcbCmcbCmcbCmcbCmcbCmcbCmcbCmcbCmcbCmcbCmcbCmcbCmcbC",
    "mcbCmcbCmcbCmcGcBgcbBgcbBgcbBgcbBgcbBgcbBgcbBgcbBgcbBgcbBgcbBgcbBgcbBgcbBgcbBgcbBgcbBgcbBgcb",
    "BgcbBgcbBgcEGpBgcbBgcbBgcbBgcbBgcbBgcbBgcbBgcbBgcbBgcbBgcbBgcbBgcbBgcbBgcbBgcbBgcbBgcbBgcbBg",
    "cbBgcbBgcbBgcbBgcbBgcbBgcbBgcbBgcbBgcbBgcbBgcbBgcBGJxBgcbBgcbBgcbBgcbBgcbBgcbBgcbBgcbBgcbBgc",
    "bBgcbBgcbBgcbBgcbBgcbBgcbBgcbBgcbBgcbBgcbBgcbBgcbBgcbBgcbBgcbBgcbBgcbBgcbBgcbBgcbBgcbBgcBULl",
    "BicbBicbBicbBicbBicbBicbBicbBicbBicbBicbBicbBicbBicbBicbBicbBicbBicbBicbBicbBicbBicbBicbBicb",
    "BicbBicbBicbBicbBicbBicbBicbBicbBicbBicbBi"]

/-- The members of an orbit from its distances. -/
def sums : Nat → List Nat → List Nat
  | _, [] => []
  | base, d :: ds => (base + d) :: sums (base + d) ds

/-- The orbits behind their blocks of distances. -/
def orbitsFrom : Nat → List (List Nat) → List (List Nat)
  | _, [] => []
  | least, block :: rest =>
    let orbit := sums least block
    orbit :: orbitsFrom (orbit.headD least) rest

/-- The orbits with at least two members, each ascending, in the order of their least members. -/
def orbits : List (List Nat) :=
  orbitsFrom 0 (Packed.blocks (Packed.numbers packed))

/-- The orbit of a code point, if it has other members. -/
def orbit? (c : Nat) : Option (List Nat) :=
  orbits.find? (·.contains c)

/-- The least set that holds `s` and with a code point its whole orbit. -/
def close (s : CodeSet) : CodeSet :=
  let met := orbits.filter fun orbit => orbit.any s.mem
  s.union (CodeSet.ofList met.flatten)

end CaseFolding
end Unicode
end StreamEditor
