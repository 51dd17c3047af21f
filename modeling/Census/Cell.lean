import Census.Find

set_option autoImplicit false

namespace Census

class Cell (σ : Type) where
  empty : σ
  add : σ → Int64 → σ
  merge : σ → σ → σ
  finish : σ → Except QueryError Int64

/-- What a bucket that took in nothing shows when it looks for a value. -/
def emptyBucketValue : Int64 := 0

structure SumCell where
  sum : Int64
  deriving DecidableEq

instance : Cell SumCell where
  empty := ⟨0⟩
  add cell value := ⟨satAdd cell.sum value⟩
  merge a b := ⟨satAdd a.sum b.sum⟩
  finish cell := .ok cell.sum

structure MaxCell where
  greatest : Option Int64
  deriving DecidableEq

namespace MaxCell

def add (cell : MaxCell) (value : Int64) : MaxCell :=
  ⟨some (cell.greatest.elim value (max · value))⟩

end MaxCell

instance : Cell MaxCell where
  empty := ⟨none⟩
  add := MaxCell.add
  merge a b := b.greatest.elim a a.add
  finish cell := .ok (cell.greatest.getD emptyBucketValue)

structure MinCell where
  least : Option Int64
  deriving DecidableEq

namespace MinCell

def add (cell : MinCell) (value : Int64) : MinCell :=
  ⟨some (cell.least.elim value (min · value))⟩

end MinCell

instance : Cell MinCell where
  empty := ⟨none⟩
  add := MinCell.add
  merge a b := b.least.elim a a.add
  finish cell := .ok (cell.least.getD emptyBucketValue)

/-- A quotient rounded down, from the one that is rounded toward zero. -/
def floorDiv (sum : Int) (count : Nat) : Int :=
  if sum < 0 ∧ sum.tmod count ≠ 0 then sum.tdiv count - 1 else sum.tdiv count

structure AvgCell where
  sum : Int
  count : Nat
  deriving DecidableEq

namespace AvgCell

def mean (cell : AvgCell) : Int :=
  floorDiv cell.sum cell.count

def finish (cell : AvgCell) : Except QueryError Int64 :=
  if cell.count = 0 then .ok emptyBucketValue
  else if (clamp cell.mean).toInt = cell.mean then .ok (clamp cell.mean)
  else .error (.invariantViolation
    ("average " ++ Text.decimal cell.mean ++ " does not fit in i64"))

end AvgCell

instance : Cell AvgCell where
  empty := ⟨0, 0⟩
  add cell value := ⟨cell.sum + value.toInt, cell.count + 1⟩
  merge a b := ⟨a.sum + b.sum, a.count + b.count⟩
  finish := AvgCell.finish

namespace Cell

variable {σ : Type} [Cell σ]

def addAll (cell : σ) (values : List Int64) : σ :=
  values.foldl add cell

def ofShards (σ : Type) [Cell σ] (shards : List (List Int64)) : Except QueryError Int64 :=
  finish ((shards.map (addAll (σ := σ) empty)).foldl merge empty)

end Cell

end Census
