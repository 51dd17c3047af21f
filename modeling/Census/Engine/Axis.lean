import Census.Engine

set_option autoImplicit false

namespace Census

abbrev Transforms := List (String × (Record → Int64))

namespace Transforms

def getD (transforms : Transforms) (name : String) (default : Record → Int64) : Record → Int64 :=
  (transforms.lookup name).getD default

end Transforms

inductive Axis where
  | diskspace (transforms : Transforms)
  | memory
  | fileSize
  | replication (transforms : Transforms)
  | storageType
  | accessTime (range : String)
  | modTime (range : String)
  | owner
  | group
  | parentDir (level : Int64)
  | fileType
  | dirQuota

namespace Axis

def name : Axis → String
  | .diskspace _ => "diskspace"
  | .memory => "memory"
  | .fileSize => "file_size"
  | .replication _ => "replication"
  | .storageType => "storage_type"
  | .accessTime _ => "access_time"
  | .modTime _ => "mod_time"
  | .owner => "owner"
  | .group => "group"
  | .parentDir _ => "parent_dir"
  | .fileType => "file_type"
  | .dirQuota => "dir_quota"

def transforms : Axis → Transforms
  | .diskspace transforms => transforms
  | .replication transforms => transforms
  | _ => []

def ancestor? (level : Int64) (r : Record) : Option String :=
  -- There is no directory at a negative level.
  if level < 0 then none else r.ancestor? level.toInt.toNat

end Axis

namespace Reduction

def request (release : Release) (sum : String) (find : Option String) (transforms : Transforms) :
    Except QueryError Reduction :=
  -- A request that names no value to be found asks for a sum.
  match (find.map Text.trim).filter (· ≠ "") with
  | some spec => do return .find release (← FindSpec.parse spec)
  | none => do
    let a ← Aggregation.resolve sum
    return .sum (transforms.getD sum fun r => a.contribution r)

end Reduction

inductive Scale where
  | ranges (layout : RangedLayout) (dimension : Record → Int64)
  | labels (label : Record → Option String) (order : KeyOrder) (shown : Int64 → Bool)

namespace Axis

def age (range : String) (now : Int64) (time : Record → Int64) : Except QueryError Scale := do
  return .ranges (← TimeRange.resolve range).layout fun r => satSub now (time r)

def scale (release : Release) (now : Int64) : Axis → Except QueryError Scale
  | .diskspace transforms =>
    .ok (.ranges .spaceSize (transforms.getD "diskspaceConsumed" Record.diskspace))
  | .memory => .ok (.ranges .memorySize Record.memory)
  | .fileSize => .ok (.ranges .spaceSize Record.fileSize)
  | .replication transforms =>
    let dimension := transforms.getD "fileReplica" Record.replication
    .ok (.labels (fun r => some (Text.decimal (dimension r).toInt)) .numeric (· ≠ 0))
  | .storageType =>
    .ok (.labels release.policyLabel? (.canonical (release.policies.map Prod.snd)) fun _ => true)
  | .accessTime range => age range now (·.accessTime)
  | .modTime range => age range now (·.modTime)
  | .owner => .ok (.labels (fun r => some r.user) .discovery fun _ => true)
  | .group => .ok (.labels (fun r => some r.group) .discovery fun _ => true)
  | .parentDir level => .ok (.labels (ancestor? level) .discovery fun _ => true)
  | .fileType => .ok (.labels FileType.of? (.canonical FileType.labels) (0 < ·))
  | .dirQuota =>
    .ok (.labels (fun r => if r.isDir then some r.path else none) .discovery (0 ≤ ·))

end Axis

def Scale.histogramOver (scale : Scale) (pieces : Cut Record) (reduction : Reduction) :
    Except QueryError (Histogram Int64) :=
  match scale with
  | .ranges layout dimension => Bucketing.rangedOver pieces dimension reduction layout
  | .labels label order shown => do
    let found ← Bucketing.discreteOver pieces label reduction order
    return found.histogram.filter fun _ value => shown value

namespace Engine

def histogramOver (e : Engine) (pieces : Cut Record) (axis : Axis) (sum : String)
    (find : Option String) : Except QueryError (Histogram Int64) := do
  let scale ← axis.scale e.release e.now
  let reduction ← Reduction.request e.release sum find axis.transforms
  scale.histogramOver pieces reduction

def histogram (e : Engine) (s : Subset) (axis : Axis) (sum : String) (find : Option String) :
    Except QueryError (Histogram Int64) :=
  e.histogramOver (e.fanout.halves s.records) axis sum find

end Engine

end Census
