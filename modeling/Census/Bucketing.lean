import Census.Aggregation
import Census.Cell
import Census.FileType
import Census.Histogram
import Census.Layout.Predefined
import Census.Text.Blank

set_option autoImplicit false

namespace Census

structure Reduction where
  mode : Option FindMode
  value : Record → Int64

namespace Reduction

def sum (contribution : Record → Int64) : Reduction where
  mode := none
  value := contribution

def find (release : Release) (spec : FindSpec) : Reduction where
  mode := some spec.mode
  value := spec.field.value release

end Reduction

abbrev Shard (σ : Type) := List σ

namespace Shard

variable {σ : Type} [Cell σ]

def fresh (buckets : Nat) : Shard σ :=
  List.replicate buckets Cell.empty

def absorb (shard : Shard σ) (placed : Nat × Int64) : Shard σ :=
  shard.modify placed.1 (Cell.add · placed.2)

def fill (buckets : Nat) (placed : List (Nat × Int64)) : Shard σ :=
  placed.foldl absorb (fresh buckets)

def merge (a b : Shard σ) : Shard σ :=
  a.zipWith Cell.merge b

end Shard

namespace Bucketing

def accumulate (σ : Type) [Cell σ] (buckets : Nat) (placed : Cut (Nat × Int64)) :
    Except QueryError (List Int64) :=
  (placed.reduce (Shard.fill (σ := σ) buckets) Shard.merge).mapM Cell.finish

def reduceBuckets (mode : Option FindMode) (buckets : Nat) (placed : Cut (Nat × Int64)) :
    Except QueryError (List Int64) :=
  match mode with
  | none => accumulate SumCell buckets placed
  | some .max => accumulate MaxCell buckets placed
  | some .min => accumulate MinCell buckets placed
  | some .avg => accumulate AvgCell buckets placed

def ofShards (mode : Option FindMode) (shards : List (List Int64)) : Except QueryError Int64 :=
  match mode with
  | none => Cell.ofShards SumCell shards
  | some .max => Cell.ofShards MaxCell shards
  | some .min => Cell.ofShards MinCell shards
  | some .avg => Cell.ofShards AvgCell shards

def rangedOver (pieces : Cut Record) (dimension : Record → Int64) (reduction : Reduction)
    (layout : RangedLayout) : Except QueryError (Histogram Int64) :=
  -- Every range is listed, but nothing is for no records.
  if pieces.toList.isEmpty then .ok .empty
  else do
    let placed := pieces.map fun r => (layout.bucketOf (dimension r), reduction.value r)
    let values ← reduceBuckets reduction.mode layout.size placed
    return .ofEntries (layout.labels.zip values)

def ranged (fanout : Fanout) (s : Subset) (dimension : Record → Int64) (reduction : Reduction)
    (layout : RangedLayout) : Except QueryError (Histogram Int64) :=
  rangedOver (fanout.halves s.records) dimension reduction layout

structure Discrete where
  histogram : Histogram Int64
  unmappedRecords : Nat
  unmappedValue : Int64

def discreteOver (pieces : Cut Record) (label : Record → Option String) (reduction : Reduction)
    (order : KeyOrder) : Except QueryError Discrete :=
  -- The labels of all records are numbered before a record goes into its bucket.
  if pieces.toList.isEmpty then .ok ⟨.empty, 0, 0⟩
  else do
    let table := KeyTable.discover (pieces.toList.map label) order
    let ids := pieces.map fun r => (table.idOf (label r), r)
    let values ← reduceBuckets reduction.mode table.cardinality
      (ids.map fun (id, r) => (id, reduction.value r))
    return {
      histogram := .ofEntries (table.keys.toList.zip values)
      unmappedRecords := ids.toList.countP (·.1 = table.sentinel)
      unmappedValue := values.getLast?.getD 0 }

def discrete (fanout : Fanout) (s : Subset) (label : Record → Option String)
    (reduction : Reduction) (order : KeyOrder) : Except QueryError Discrete :=
  discreteOver (fanout.halves s.records) label reduction order

end Bucketing

end Census
