import Std.Data.HashMap
import Census.Layout.KeyTable
import Census.Saturating
import Census.Text.Numeral
import Census.Text.Quoted

set_option autoImplicit false

namespace Census

structure Histogram (β : Type) where
  entries : List (String × β)
  positions : Std.HashMap String Nat

namespace Histogram

variable {β : Type}

def empty : Histogram β where
  entries := []
  positions := {}

/-- The place of each label, the first where a label is repeated. -/
def locate (entries : List (String × β)) : Std.HashMap String Nat :=
  entries.zipIdx.foldl (fun positions ((label, _), position) =>
    positions.insertIfNew label position) {}

def ofEntries (entries : List (String × β)) : Histogram β where
  entries := entries
  positions := locate entries

def insert (h : Histogram β) (label : String) (value : β) : Histogram β :=
  match h.positions[label]? with
  | some position => { h with entries := h.entries.modify position fun (l, _) => (l, value) }
  | none =>
    { entries := h.entries ++ [(label, value)]
      positions := h.positions.insert label h.entries.length }

def insertAll (entries : List (String × β)) : Histogram β :=
  entries.foldl (fun h (label, value) => h.insert label value) empty

def get? (h : Histogram β) (label : String) : Option β :=
  (h.positions[label]?).bind fun position => (h.entries[position]?).map Prod.snd

def contains (h : Histogram β) (label : String) : Bool :=
  (h.get? label).isSome

def erase (h : Histogram β) (label : String) : Histogram β :=
  -- The places of those after it move up by one.
  match h.positions[label]? with
  | some position =>
    { entries := h.entries.eraseIdx position
      positions := (h.positions.erase label).map fun _ p => if position < p then p - 1 else p }
  | none => h

def remove (h : Histogram β) (label : String) : Option β × Histogram β :=
  (h.get? label, h.erase label)

def restrict (h : Histogram β) (kept : List (String × β)) : Histogram β :=
  -- The places are found anew unless all entries stay.
  if kept.length = h.entries.length then { h with entries := kept } else ofEntries kept

def filter (h : Histogram β) (keep : String → β → Bool) : Histogram β :=
  h.restrict (h.entries.filter fun (label, value) => keep label value)

def size (h : Histogram β) : Nat :=
  h.entries.length

def labels (h : Histogram β) : List String :=
  h.entries.map Prod.fst

def values (h : Histogram β) : List β :=
  h.entries.map Prod.snd

def same [DecidableEq β] (a b : Histogram β) : Bool :=
  a.entries = b.entries

def total (h : Histogram Int64) : Int64 :=
  satSum h.values

def json (h : Histogram Int64) : String :=
  "\x7b" ++ ",".intercalate (h.entries.map fun (label, value) =>
    Text.json label ++ ":" ++ Text.decimal value.toInt) ++ "\x7d"

def describe (h : Histogram Int64) : String :=
  "Histogram \x7b entries: [" ++ ", ".intercalate (h.entries.map fun (label, value) =>
    "(" ++ Text.quoted label ++ ", " ++ Text.decimal value.toInt ++ ")") ++ "] \x7d"

def zipColumns (columns : List (Histogram Int64)) : Histogram (List Int64) :=
  -- A column without a label has zero under it.
  let labels := (KeyTable.ofKeys (columns.flatMap labels)).keys.toList
  let values := columns.map fun column => Std.HashMap.ofList column.entries
  ofEntries (labels.map fun label => (label, values.map fun column => column.getD label 0))

end Histogram

end Census
