import Std.Data.HashMap
import Census.Record

set_option autoImplicit false

namespace Census

structure KeyIndex where
  positions : Std.HashMap Int64 Nat
  unique : Array Nat

namespace KeyIndex

def empty : KeyIndex where
  positions := {}
  unique := #[]

def enter (index : KeyIndex) (position : Nat) (id : Int64) : KeyIndex :=
  if index.positions.contains id then index
  else ⟨index.positions.insert id position, index.unique.push position⟩

def build (records : List Record) : KeyIndex :=
  records.zipIdx.foldl (fun index (r, position) => index.enter position r.id) empty

def position? (index : KeyIndex) (id : Int64) : Option Nat :=
  index.positions[id]?

def size (index : KeyIndex) : Nat :=
  index.unique.size

end KeyIndex

end Census
