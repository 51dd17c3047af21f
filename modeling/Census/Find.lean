import Census.Attribute
import Census.Comparison
import Census.Subset

set_option autoImplicit false

namespace Census

inductive FindMode where
  | min
  | max
  | avg
  deriving DecidableEq

namespace FindMode

def table : List (String × FindMode) :=
  [("min", .min), ("max", .max), ("avg", .avg)]

def names : List String :=
  table.map Prod.fst

def name : FindMode → String
  | .min => "min"
  | .max => "max"
  | .avg => "avg"

def resolve (name : String) : Except QueryError FindMode :=
  match table.lookup name with
  | some mode => .ok mode
  | none => .error (.unknownFindMode name names)

end FindMode

structure FindSpec where
  mode : FindMode
  field : LongAttr
  deriving DecidableEq

namespace FindSpec

def parse (spec : String) : Except QueryError FindSpec := do
  let (name, field) ← splitSpec "find" spec
  let mode ← FindMode.resolve name
  let field ← Attribute.resolveLong field mode.name
  return ⟨mode, field⟩

def describe (spec : FindSpec) : String :=
  spec.mode.name ++ ":" ++ spec.field.name

end FindSpec

inductive Extreme where
  | least
  | greatest
  deriving DecidableEq

namespace Extreme

def table : List (String × Extreme) :=
  [("min", .least), ("max", .greatest)]

def names : List String :=
  table.map Prod.fst

def resolve (name : String) : Except QueryError Extreme :=
  match table.lookup name with
  | some extreme => .ok extreme
  | none => .error (.unknownFindMode name names)

def beats (extreme : Extreme) (a b : Int64) : Bool :=
  match extreme with
  | .least => a < b
  | .greatest => b < a

def pick (extreme : Extreme) (a b : Int64 × Nat) : Int64 × Nat :=
  -- Of equal values the earlier is taken.
  if extreme.beats b.1 a.1 || (b.1 = a.1 && b.2 < a.2) then b else a

def pick? (extreme : Extreme) : Option (Int64 × Nat) → Option (Int64 × Nat) → Option (Int64 × Nat)
  | none, b => b
  | a, none => a
  | some a, some b => some (extreme.pick a b)

def best? (extreme : Extreme) (candidates : List (Int64 × Nat)) : Option (Int64 × Nat) :=
  candidates.foldl (fun best candidate => extreme.pick? best (some candidate)) none

end Extreme

/-- The record at an end of a field, the first of several; `max:field` or `min:field`. -/
structure FindFilter where
  extreme : Extreme
  field : LongAttr
  deriving DecidableEq

namespace FindFilter

def parse (spec : String) : Except QueryError FindFilter := do
  let (mode, field) ← splitSpec "findFilter" spec
  let extreme ← Extreme.resolve mode
  let field ← Attribute.resolveLong field mode
  return ⟨extreme, field⟩

def apply (f : FindFilter) (release : Release) (s : Subset) (fanout : Fanout) : Subset :=
  let candidates := s.records.zipIdx.map fun (r, position) => (f.field.value release r, position)
  let best := (fanout.halves candidates).reduce f.extreme.best? f.extreme.pick?
  ⟨((best.bind fun (_, position) => s.records[position]?)).toList⟩

end FindFilter

end Census
