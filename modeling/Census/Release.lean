import Census.Record

set_option autoImplicit false

namespace Census

structure Release where
  name : String
  storagePolicy : Record → Int64
  subtreeSize : Record → Int64
  subtreeFiles : Record → Int64
  subtreeDirs : Record → Int64
  childCount : Record → Int64
  policies : List (Int64 × String)

namespace Release

def standardPolicies : List (Int64 × String) :=
  [(0, "UNSPECIFIED"), (1, "PROVIDED"), (2, "COLD"), (5, "WARM"), (7, "HOT"), (10, "ONE_SSD"),
   (12, "ALL_SSD"), (15, "LAZY_PERSIST")]

/-- Takes every field as the record has it, a file having nothing below it. -/
def standard : Release where
  name := "default"
  storagePolicy r := Int64.ofNat r.storagePolicy.toNat
  subtreeSize r := r.dir?.elim 0 (·.subtreeSize)
  subtreeFiles r := r.dir?.elim 0 (·.subtreeFiles)
  subtreeDirs r := r.dir?.elim 0 (·.subtreeDirs)
  childCount r := r.dir?.elim 0 (·.childCount)
  policies := standardPolicies

def rescaled (name : String) (shift scale : Int64) (policies : List (Int64 × String)) :
    Release where
  name := name
  storagePolicy r := satAdd (standard.storagePolicy r) shift
  subtreeSize r := satMul (standard.subtreeSize r) scale
  subtreeFiles r := satMul (standard.subtreeFiles r) scale
  subtreeDirs r := satMul (standard.subtreeDirs r) scale
  childCount := standard.childCount
  policies := policies

def policyLabel? (release : Release) (r : Record) : Option String :=
  release.policies.lookup (release.storagePolicy r)

end Release

end Census
