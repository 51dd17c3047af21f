import Census.Engine.Axis

set_option autoImplicit false

namespace Census

inductive Operation where
  | combinedFilter
  | findFilter
  | sum
  | histogram (axis : String)
  | prune
  | pruneVectors
  | dumpPaths
  deriving DecidableEq

def Operation.name : Operation → String
  | .combinedFilter => "combined_filter"
  | .findFilter => "find_filter"
  | .sum => "sum"
  | .histogram axis => axis ++ "_histogram"
  | .prune => "remove_keys_on_conditional"
  | .pruneVectors => "remove_keys_on_conditional_vec"
  | .dumpPaths => "dump_paths"

/-- Counts under keys, of which one that was counted stays, even at zero. -/
structure Counter (κ : Type) where
  -- Records are counted in words and the rest in doubles, which are exact up to 2 ^ 53.
  entries : List (κ × Nat)

namespace Counter

variable {κ : Type} [DecidableEq κ]

def zero : Counter κ where
  entries := []

def addTo (key : κ) (amount : Nat) : List (κ × Nat) → List (κ × Nat)
  | [] => [(key, amount)]
  | (k, n) :: rest => if k = key then (k, n + amount) :: rest else (k, n) :: addTo key amount rest

def add (c : Counter κ) (key : κ) (amount : Nat) : Counter κ :=
  ⟨addTo key amount c.entries⟩

def count (c : Counter κ) (key : κ) : Nat :=
  (c.entries.lookup key).getD 0

theorem lookup_addTo (key other : κ) (amount : Nat) (entries : List (κ × Nat)) :
    ((addTo key amount entries).lookup other).getD 0 =
      (entries.lookup other).getD 0 + if other = key then amount else 0 := by
  induction entries with
  | nil =>
    by_cases h : other = key
    · simp [addTo, h]
    · have : (other == key) = false := by simpa using h
      simp [addTo, List.lookup_cons, h, this]
  | cons entry rest ih =>
    obtain ⟨k, n⟩ := entry
    by_cases same : k = key
    · by_cases h : other = key
      · simp [addTo, same, h]
      · have : (other == key) = false := by simpa using h
        simp [addTo, List.lookup_cons, same, h, this]
    · by_cases h : other = k
      · subst h
        simp [addTo, same]
      · have : (other == k) = false := by simpa using h
        simp [addTo, List.lookup_cons, same, this, ih]

@[simp] theorem count_add (c : Counter κ) (key other : κ) (amount : Nat) :
    (c.add key amount).count other = c.count other + if other = key then amount else 0 :=
  lookup_addTo key other amount c.entries

end Counter

structure Metrics where
  succeeded : Counter Operation
  failed : Counter Operation
  scanned : Counter Operation
  errors : Counter (String × Operation)
  snapshotRecords : Nat
  snapshotGeneration : Nat

namespace Metrics

def zero : Metrics where
  succeeded := .zero
  failed := .zero
  scanned := .zero
  errors := .zero
  snapshotRecords := 0
  snapshotGeneration := 0

def record (m : Metrics) (operation : Operation) (items : Nat) (failure : Option QueryError) :
    Metrics :=
  let counted :=
    match failure with
    | none => { m with succeeded := m.succeeded.add operation 1 }
    | some e =>
      { m with
        failed := m.failed.add operation 1
        errors := m.errors.add (e.label, operation) 1 }
  { counted with scanned := counted.scanned.add operation items }

def observe (m : Metrics) (s : Snapshot) : Metrics :=
  { m with snapshotRecords := s.size, snapshotGeneration := s.generation }

structure Sample where
  labels : List (String × String)
  value : Nat

def Sample.line (family : String) (s : Sample) : String :=
  let labels := s.labels.map fun (name, value) => name ++ "=\"" ++ value ++ "\""
  family ++ (if labels.isEmpty then "" else "\x7b" ++ ",".intercalate labels ++ "\x7d") ++ " "
    ++ Text.decimal s.value

def Sample.before (a b : Sample) : Bool :=
  !List.lex (b.labels.map Prod.snd) (a.labels.map Prod.snd) fun x y => x < y

def family (name : String) (samples : List Sample) : List String :=
  (samples.mergeSort Sample.before).map (·.line name)

def perOperation (name : String) (c : Counter Operation) : List String :=
  family name (c.entries.map fun (operation, n) => ⟨[("operation", operation.name)], n⟩)

def outcomes (status : String) (c : Counter Operation) : List Sample :=
  c.entries.map fun (operation, n) => ⟨[("operation", operation.name), ("status", status)], n⟩

def calls (m : Metrics) : Counter Operation where
  entries := m.scanned.entries.map fun (operation, _) =>
    (operation, m.succeeded.count operation + m.failed.count operation)

def lines (m : Metrics) : List String :=
  family "nsq_errors_total" (m.errors.entries.map fun ((kind, operation), n) =>
    ⟨[("kind", kind), ("operation", operation.name)], n⟩)
  ++ perOperation "nsq_operation_duration_seconds_count" m.calls
  ++ family "nsq_operations_total" (outcomes "success" m.succeeded ++ outcomes "error" m.failed)
  ++ perOperation "nsq_records_scanned_total" m.scanned
  ++ family "nsq_snapshot_generation" [⟨[], m.snapshotGeneration⟩]
  ++ family "nsq_snapshot_records" [⟨[], m.snapshotRecords⟩]

end Metrics

end Census
