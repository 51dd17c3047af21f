import Census.QueryError
import Census.Release
import Census.Text.Quoted

set_option autoImplicit false

namespace Census

inductive LongAttr where
  | id
  | accessTime
  | modTime
  | fileSize
  | diskspace
  | memory
  | replication
  | numBlocks
  | numReplicas
  | depth
  | permission
  | childCount
  | subtreeSize
  | subtreeFiles
  | subtreeDirs
  | storagePolicy
  deriving DecidableEq

namespace LongAttr

def all : List LongAttr :=
  [.id, .accessTime, .modTime, .fileSize, .diskspace, .memory, .replication, .numBlocks,
   .numReplicas, .depth, .permission, .childCount, .subtreeSize, .subtreeFiles, .subtreeDirs,
   .storagePolicy]

theorem mem_all (a : LongAttr) : a ∈ all := by
  cases a <;> decide

def name : LongAttr → String
  | .id => "id"
  | .accessTime => "accessTime"
  | .modTime => "modTime"
  | .fileSize => "fileSize"
  | .diskspace => "diskspaceConsumed"
  | .memory => "memoryConsumed"
  | .replication => "fileReplica"
  | .numBlocks => "numBlocks"
  | .numReplicas => "numReplicas"
  | .depth => "depth"
  | .permission => "permission"
  | .childCount => "dirNumChildren"
  | .subtreeSize => "dirSubTreeSize"
  | .subtreeFiles => "dirSubTreeNumFiles"
  | .subtreeDirs => "dirSubTreeNumDirs"
  | .storagePolicy => "storageType"

def value (release : Release) (r : Record) : LongAttr → Int64
  | .id => r.id
  | .accessTime => r.accessTime
  | .modTime => r.modTime
  | .fileSize => r.fileSize
  | .diskspace => r.diskspace
  | .memory => r.memory
  | .replication => r.replication
  | .numBlocks => r.numBlocks
  | .numReplicas => r.numReplicas
  | .depth => Int64.ofNat r.depth
  | .permission => Int64.ofNat r.permission.toNat
  | .childCount => release.childCount r
  | .subtreeSize => release.subtreeSize r
  | .subtreeFiles => release.subtreeFiles r
  | .subtreeDirs => release.subtreeDirs r
  | .storagePolicy => release.storagePolicy r

end LongAttr

inductive TextAttr where
  | user
  | group
  | localName
  | path
  deriving DecidableEq

namespace TextAttr

def all : List TextAttr :=
  [.user, .group, .localName, .path]

theorem mem_all (a : TextAttr) : a ∈ all := by
  cases a <;> decide

def name : TextAttr → String
  | .user => "user"
  | .group => "group"
  | .localName => "name"
  | .path => "path"

def value (r : Record) : TextAttr → String
  | .user => r.user
  | .group => r.group
  | .localName => r.name
  | .path => r.path

end TextAttr

inductive FlagAttr where
  | underConstruction
  | withSnapshot
  | hasAcl
  | hasQuota
  deriving DecidableEq

namespace FlagAttr

def all : List FlagAttr :=
  [.underConstruction, .withSnapshot, .hasAcl, .hasQuota]

theorem mem_all (a : FlagAttr) : a ∈ all := by
  cases a <;> decide

def name : FlagAttr → String
  | .underConstruction => "isUnderConstruction"
  | .withSnapshot => "isWithSnapshot"
  | .hasAcl => "hasAcl"
  | .hasQuota => "hasQuota"

def value (r : Record) : FlagAttr → Bool
  | .underConstruction => r.file?.elim false (·.underConstruction)
  | .withSnapshot => r.file?.elim false (·.hasSnapshot)
  | .hasAcl => r.hasAcl
  | .hasQuota => r.dir?.elim false (·.hasQuota)

end FlagAttr

inductive DateAttr where
  | modDate
  | accessDate
  deriving DecidableEq

namespace DateAttr

def all : List DateAttr :=
  [.modDate, .accessDate]

theorem mem_all (a : DateAttr) : a ∈ all := by
  cases a <;> decide

def name : DateAttr → String
  | .modDate => "modDate"
  | .accessDate => "accessDate"

def value? (r : Record) : DateAttr → Option Calendar.Day
  | .modDate => r.modDay?
  | .accessDate => r.accessDay?

end DateAttr

inductive Attribute where
  | long (a : LongAttr)
  | text (a : TextAttr)
  | flag (a : FlagAttr)
  | date (a : DateAttr)
  deriving DecidableEq

namespace Attribute

def name : Attribute → String
  | .long a => a.name
  | .text a => a.name
  | .flag a => a.name
  | .date a => a.name

def kind : Attribute → ValueKind
  | .long _ => .long
  | .text _ => .text
  | .flag _ => .flag
  | .date _ => .date

/-- Every attribute, in the order in which errors list them. -/
def catalog : List Attribute :=
  LongAttr.all.map .long ++ TextAttr.all.map .text ++ FlagAttr.all.map .flag ++
    DateAttr.all.map .date

theorem mem_catalog (a : Attribute) : a ∈ catalog := by
  cases a <;> simp [catalog, LongAttr.mem_all, TextAttr.mem_all, FlagAttr.mem_all,
    DateAttr.mem_all]

theorem nodup_names : (catalog.map name).Nodup := by
  decide

def names : List String :=
  catalog.map name

def ofKind (kind : ValueKind) : List String :=
  (catalog.filter (·.kind = kind)).map name

def resolve (field : String) : Except QueryError Attribute :=
  match catalog.find? (·.name = field) with
  | some a => .ok a
  | none => .error (.unresolvedFilter field names)

def resolveLong (field operator : String) : Except QueryError LongAttr := do
  match ← resolve field with
  | .long a => return a
  | other =>
    throw (.unsupportedOperator field operator other.kind ["none (long attributes only)"])

def describe (a : Attribute) : String :=
  "Attribute \x7b name: " ++ Text.quoted a.name ++ ", kind: " ++ a.kind.describe ++ " \x7d"

theorem resolve_name (a : Attribute) : resolve a.name = .ok a := by
  rcases a with a | a | a | a <;> cases a <;> rfl

end Attribute

end Census
