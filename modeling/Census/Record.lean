import Census.Path
import Census.Saturating
import Census.Calendar.Day

set_option autoImplicit false

namespace Census

structure FileAttrs where
  size : Int64
  replication : UInt16
  blockSize : Int64
  numBlocks : Int64
  underConstruction : Bool
  hasSnapshot : Bool
  deriving DecidableEq

def blocksFor (size blockSize : Int64) : Int64 :=
  -- There are no blocks unless both are positive.
  if 0 < blockSize ∧ 0 < size then
    size / blockSize + (if size % blockSize = 0 then 0 else 1)
  else 0

def FileAttrs.of (size : Int64) (replication : UInt16) (blockSize : Int64) : FileAttrs where
  size := size
  replication := replication
  blockSize := blockSize
  numBlocks := blocksFor size blockSize
  underConstruction := false
  hasSnapshot := false

structure DirAttrs where
  childCount : Int64 := 0
  subtreeSize : Int64 := 0
  subtreeFiles : Int64 := 0
  subtreeDirs : Int64 := 0
  hasQuota : Bool := false
  deriving DecidableEq

inductive Kind where
  | file (attrs : FileAttrs)
  | directory (attrs : DirAttrs)
  deriving DecidableEq

structure Record where
  id : Int64
  name : String
  path : String
  user : String
  group : String
  permission : UInt32
  accessTime : Int64
  modTime : Int64
  storagePolicy : UInt8
  hasAcl : Bool
  kind : Kind
  deriving DecidableEq

namespace Record

def bare (id : Int64) (path : String) (permission : UInt32) (kind : Kind) : Record where
  id := id
  name := Path.name path
  path := path
  user := ""
  group := ""
  permission := permission
  accessTime := 0
  modTime := 0
  storagePolicy := 0
  hasAcl := false
  kind := kind

def file (id : Int64) (path : String) (attrs : FileAttrs) : Record :=
  bare id path 0o644 (.file attrs)

def directory (id : Int64) (path : String) (attrs : DirAttrs) : Record :=
  bare id path 0o755 (.directory attrs)

def file? (r : Record) : Option FileAttrs :=
  match r.kind with
  | .file attrs => some attrs
  | .directory _ => none

def dir? (r : Record) : Option DirAttrs :=
  match r.kind with
  | .file _ => none
  | .directory attrs => some attrs

def isFile (r : Record) : Bool :=
  r.file?.isSome

def isDir (r : Record) : Bool :=
  r.dir?.isSome

theorem isDir_eq_not_isFile (r : Record) : r.isDir = !r.isFile := by
  unfold isDir isFile dir? file?
  split <;> rfl

def fileSize (r : Record) : Int64 :=
  r.file?.elim 0 (·.size)

def replication (r : Record) : Int64 :=
  r.file?.elim 0 fun f => Int64.ofNat f.replication.toNat

def blockSize (r : Record) : Int64 :=
  r.file?.elim 0 (·.blockSize)

def numBlocks (r : Record) : Int64 :=
  r.file?.elim 0 (·.numBlocks)

def diskspace (r : Record) : Int64 :=
  satMul r.fileSize r.replication

def numReplicas (r : Record) : Int64 :=
  satMul r.numBlocks r.replication

def memory (r : Record) : Int64 :=
  satAdd 100 (satMul r.numBlocks 150)

def depth (r : Record) : Nat :=
  Path.depth r.path

def parent? (r : Record) : Option String :=
  Path.parent? r.path

def ancestor? (r : Record) (level : Nat) : Option String :=
  Path.ancestor? r.path level

def modDay? (r : Record) : Option Calendar.Day :=
  Calendar.Day.written? r.modTime

def accessDay? (r : Record) : Option Calendar.Day :=
  Calendar.Day.written? r.accessTime

end Record

end Census
