import Census.Cut
import Census.QueryError
import Census.Subset

set_option autoImplicit false

namespace Census

inductive Aggregation where
  | count
  | fileSize
  | diskspace
  | blockSize
  | numBlocks
  | numReplicas
  | memory
  deriving DecidableEq

namespace Aggregation

def table : List (String × Aggregation) :=
  [("count", .count), ("fileSize", .fileSize), ("diskspaceConsumed", .diskspace),
   ("blockSize", .blockSize), ("numBlocks", .numBlocks), ("numReplicas", .numReplicas),
   ("memoryConsumed", .memory)]

def names : List String :=
  table.map Prod.fst

def resolve (name : String) : Except QueryError Aggregation :=
  match table.lookup name with
  | some a => .ok a
  | none => .error (.unknownAggregation name names)

def contribution (r : Record) : Aggregation → Int64
  | .count => 1
  | .fileSize => r.fileSize
  | .diskspace => r.diskspace
  | .blockSize => r.blockSize
  | .numBlocks => r.numBlocks
  | .numReplicas => r.numReplicas
  | .memory => r.memory

/-- The sum over records, where each addition by itself stays within the words. -/
def sumOver (a : Aggregation) (pieces : Cut Record) : Int64 :=
  match a with
  | .count => clamp pieces.toList.length
  | a => pieces.reduce (fun rs => satSum (rs.map a.contribution)) satAdd

def sum (a : Aggregation) (s : Subset) (fanout : Fanout) : Int64 :=
  a.sumOver (fanout.morsels s.records)

end Aggregation

end Census
