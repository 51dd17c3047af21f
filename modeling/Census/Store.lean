import Census.Subset

set_option autoImplicit false

namespace Census

inductive NamedSet where
  | all
  | files
  | dirs
  deriving DecidableEq

namespace NamedSet

def table : List (String × NamedSet) :=
  [("all", .all), ("files", .files), ("dirs", .dirs)]

def names : List String :=
  table.map Prod.fst

def resolve (name : String) : Except QueryError NamedSet :=
  match table.lookup name with
  | some set => .ok set
  | none => .error (.unknownSet name names)

end NamedSet

structure Snapshot where
  generation : Nat
  all : Subset
  files : Subset
  dirs : Subset

namespace Snapshot

def ofRecords (generation : Nat) (records : List Record) : Snapshot :=
  -- Of records with one id the first is taken.
  let distinct := (Subset.mk records).firsts
  { generation := generation
    all := ⟨distinct⟩
    files := ⟨distinct.filter Record.isFile⟩
    dirs := ⟨distinct.filter Record.isDir⟩ }

def member (s : Snapshot) : NamedSet → Subset
  | .all => s.all
  | .files => s.files
  | .dirs => s.dirs

def size (s : Snapshot) : Nat :=
  s.all.size

end Snapshot

structure Store where
  current : Snapshot
  -- The counter is one word, which only a run of 2 ^ 64 refreshes brings round.
  issued : Nat

namespace Store

def ofRecords (records : List Record) : Store where
  current := .ofRecords 0 records
  issued := 0

def replace (store : Store) (records : List Record) : Nat × Store :=
  let generation := store.issued + 1
  -- A current snapshot of a later generation stays.
  let current :=
    if generation < store.current.generation then store.current
    else .ofRecords generation records
  (generation, ⟨current, generation⟩)

def refresh (store : Store) (records : List Record) : Store :=
  (store.replace records).2

end Store

end Census
