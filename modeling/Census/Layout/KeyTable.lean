import Std.Data.HashMap
import Census.Text.Numeral

set_option autoImplicit false

namespace Census

inductive KeyOrder where
  | discovery
  | numeric
  | canonical (labels : List String)
  deriving DecidableEq

/-- Labels numbered from zero; the number after the last stands for all other labels and for none. -/
structure KeyTable where
  keys : Array String
  ids : Std.HashMap String Nat

namespace KeyTable

def empty : KeyTable where
  keys := #[]
  ids := {}

def enter (table : KeyTable) (key : String) : KeyTable :=
  if table.ids.contains key then table
  else ⟨table.keys.push key, table.ids.insert key table.keys.size⟩

def ofKeys (keys : List String) : KeyTable :=
  keys.foldl enter empty

def sentinel (table : KeyTable) : Nat :=
  table.keys.size

def cardinality (table : KeyTable) : Nat :=
  table.keys.size + 1

def idOf (table : KeyTable) (label : Option String) : Nat :=
  (label.bind (table.ids[·]?)).getD table.sentinel

end KeyTable

namespace KeyOrder

def numericBefore (a b : String) : Bool :=
  match Text.int64 a, Text.int64 b with
  | .ok m, .ok n => m ≤ n
  | .ok _, .error _ => true
  | .error _, .ok _ => false
  | .error _, .error _ => true

def rank? (labels : List String) (label : String) : Option Nat :=
  -- Of several places the last counts.
  (labels.zipIdx.reverse).lookup label

def canonicalBefore (labels : List String) (a b : String) : Bool :=
  match rank? labels a, rank? labels b with
  | some m, some n => m ≤ n
  | some _, none => true
  | none, some _ => false
  | none, none => true

def arrange (labels : List String) : KeyOrder → List String
  -- A canonical list leaves out the labels that it does not have.
  | .discovery => labels
  | .numeric => labels.mergeSort numericBefore
  | .canonical list => (labels.filter list.contains).mergeSort (canonicalBefore list)

end KeyOrder

namespace KeyTable

def discover (labels : List (Option String)) (order : KeyOrder) : KeyTable :=
  ofKeys (order.arrange (ofKeys (labels.filterMap id)).keys.toList)

end KeyTable

end Census
