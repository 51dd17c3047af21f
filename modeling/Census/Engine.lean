import Census.Bucketing
import Census.Export
import Census.Filter
import Census.Pruning
import Census.Settings
import Census.Store

set_option autoImplicit false

namespace Census

structure Engine where
  settings : Settings
  release : Release
  now : Int64
  store : Store

namespace Engine

def build (settings : Settings) (release : Release) (now : Int64) (records : List Record) :
    Except SettingsError Engine := do
  settings.validate
  return ⟨settings, release, now, .ofRecords records⟩

def fanout (e : Engine) : Fanout :=
  e.settings.fanout

def snapshot (e : Engine) : Snapshot :=
  e.store.current

def replace (e : Engine) (records : List Record) : Nat × Engine :=
  let (generation, store) := e.store.replace records
  (generation, { e with store := store })

def refresh (e : Engine) (records : List Record) : Engine :=
  (e.replace records).2

def combinedFilter (e : Engine) (s : Subset) (fields specs : List String) :
    Except QueryError Subset := do
  let p ← Filter.compileAll e.now fields specs
  s.retrieve e.release p e.fanout

def findFilter (e : Engine) (s : Subset) (spec : String) : Except QueryError Subset :=
  -- A blank spec asks for nothing and leaves the subset.
  if Text.trim spec = "" then .ok s
  else do
    let f ← FindFilter.parse spec
    return f.apply e.release s e.fanout

def sum (e : Engine) (s : Subset) (aggregation : String) : Except QueryError Int64 := do
  let a ← Aggregation.resolve aggregation
  return a.sum s e.fanout

def prune (e : Engine) (h : Histogram Int64) (spec : String) :
    Except QueryError (Histogram Int64) :=
  Conditions.prune h spec e.now

def pruneVectors (e : Engine) (h : Histogram (List Int64)) (spec : String) :
    Except QueryError (Histogram (List Int64)) :=
  IndexedConditions.prune h spec e.now

def dumpPaths (e : Engine) (s : Subset) (limit : Option Nat) (sink : Export.Sink) :
    Except QueryError Export.Written :=
  Export.write s (limit.or e.settings.dumpLimit?) sink

structure Stats where
  generation : Nat
  records : Nat
  files : Nat
  dirs : Nat
  attributes : Nat
  deriving DecidableEq

def stats (e : Engine) : Stats where
  generation := e.snapshot.generation
  records := e.snapshot.size
  files := e.snapshot.files.size
  dirs := e.snapshot.dirs.size
  attributes := Attribute.catalog.length

end Engine

end Census
