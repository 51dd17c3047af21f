import Census.Metrics

set_option autoImplicit false

namespace Census

/-- What makes two views of records the same: a named set of a generation, or one result. -/
inductive Identity where
  | named (generation : Nat) (set : NamedSet)
  | made (n : Nat)
  deriving DecidableEq

structure View where
  identity : Identity
  subset : Subset

def Snapshot.view (snapshot : Snapshot) (name : String) : Except QueryError View := do
  let set ← NamedSet.resolve name
  return ⟨.named snapshot.generation set, snapshot.member set⟩

structure Session where
  engine : Engine
  metrics : Metrics
  made : Nat
  /-- The results over which an index has been built. -/
  indexed : List Nat

namespace Session

abbrev Step (α : Type) := Session → Except QueryError α × Session

def build (settings : Settings) (release : Release) (now : Int64) (records : List Record) :
    Except SettingsError Session := do
  let engine ← Engine.build settings release now records
  let metrics := if settings.metrics then Metrics.zero.observe engine.snapshot else .zero
  return { engine := engine, metrics := metrics, made := 0, indexed := [] }

def isIndexed (s : Session) (v : View) : Bool :=
  -- Named sets have an index from the start, results have one once it was asked for.
  match v.identity with
  | .named _ _ => true
  | .made n => s.indexed.contains n

def index (s : Session) (v : View) : Session :=
  match v.identity with
  | .named _ _ => s
  | .made n => if s.indexed.contains n then s else { s with indexed := n :: s.indexed }

def make (s : Session) (subset : Subset) : View × Session :=
  (⟨.made s.made, subset⟩, { s with made := s.made + 1 })

def view (s : Session) (name : String) : Except QueryError View :=
  s.engine.snapshot.view name

def refresh (s : Session) (records : List Record) : Session :=
  let engine := s.engine.refresh records
  { s with
    engine := engine
    metrics :=
      if engine.settings.metrics then s.metrics.observe engine.snapshot else s.metrics }

def failure? {α : Type} : Except QueryError α → Option QueryError
  | .ok _ => none
  | .error e => some e

def count {α : Type} (s : Session) (operation : Operation) (items : Nat)
    (result : Except QueryError α) : Session :=
  if s.engine.settings.metrics then
    { s with metrics := s.metrics.record operation items (failure? result) }
  else s

def observed {α : Type} (operation : Operation) (items : Nat)
    (answer : Engine → Except QueryError α) : Step α := fun s =>
  let result := answer s.engine
  (result, s.count operation items result)

def hand (s : Session) (v : View) (same : Bool) (result : Except QueryError Subset) :
    Except QueryError View × Session :=
  -- A result from which nothing was taken is the view it was asked of.
  match result with
  | .error e => (.error e, s)
  | .ok subset =>
    if same then (.ok v, s)
    else
      let (made, s) := s.make subset
      (.ok made, s)

def combinedFilter (v : View) (fields specs : List String) : Step View := fun s =>
  let result := s.engine.combinedFilter v.subset fields specs
  let s := s.count .combinedFilter v.subset.size result
  match Filter.compileAll s.engine.now fields specs with
  | .error _ => s.hand v false result
  | .ok p => (s.index v).hand v (v.subset.isWhole p) result

def findFilter (v : View) (spec : String) : Step View := fun s =>
  let result := s.engine.findFilter v.subset spec
  let s := s.count .findFilter v.subset.size result
  s.hand v (Text.trim spec = "") result

def sum (v : View) (aggregation : String) : Step Int64 :=
  observed .sum v.subset.size (·.sum v.subset aggregation)

def histogram (v : View) (axis : Axis) (sum : String) (find : Option String) :
    Step (Histogram Int64) :=
  observed (.histogram axis.name) v.subset.size (·.histogram v.subset axis sum find)

def prune (h : Histogram Int64) (spec : String) : Step (Histogram Int64) :=
  observed .prune h.size (·.prune h spec)

def pruneVectors (h : Histogram (List Int64)) (spec : String) : Step (Histogram (List Int64)) :=
  observed .pruneVectors h.size (·.pruneVectors h spec)

def dumpPaths (v : View) (limit : Option Nat) (sink : Export.Sink) : Step Export.Written :=
  observed .dumpPaths v.subset.size (·.dumpPaths v.subset limit sink)

end Session

end Census
