import Census.Cut
import Census.KeyIndex
import Census.Predicate

set_option autoImplicit false

namespace Census

/-- Records in some order, in which an id may stand more than once. -/
structure Subset where
  records : List Record
  deriving DecidableEq

namespace Subset

def empty : Subset := ⟨[]⟩

def size (s : Subset) : Nat :=
  s.records.length

def ids (s : Subset) : List Int64 :=
  s.records.map (·.id)

def paths (s : Subset) : List String :=
  s.records.map (·.path)

def index (s : Subset) : KeyIndex :=
  KeyIndex.build s.records

def firsts (s : Subset) : List Record :=
  let records := s.records.toArray
  s.index.unique.toList.filterMap (records[·]?)

def get? (s : Subset) (id : Int64) : Option Record :=
  (s.index.position? id).bind (s.records[·]?)

def contains (s : Subset) (id : Int64) : Bool :=
  (s.index.position? id).isSome

def select (release : Release) (p : Predicate) : List Record → Except QueryError (List Record)
  | [] => .ok []
  | r :: rest => do
    let kept ← p.accepts release r
    let others ← select release p rest
    return if kept then r :: others else others

def both (left right : Except QueryError (List Record)) : Except QueryError (List Record) := do
  return (← left) ++ (← right)

theorem both_select (release : Release) (p : Predicate) (xs ys : List Record) :
    both (select release p xs) (select release p ys) = select release p (xs ++ ys) := by
  induction xs with
  | nil => cases h : select release p ys <;> simp [both, select, h, bind, Except.bind, pure, Except.pure]
  | cons r rest ih =>
    simp only [List.cons_append, select, ← ih]
    cases p.accepts release r with
    | error e => rfl
    | ok kept =>
      cases select release p rest with
      | error e => rfl
      | ok others =>
        cases select release p ys with
        | error e => rfl
        | ok more => cases kept <;> rfl

def isWhole (s : Subset) (p : Predicate) : Bool :=
  -- The records themselves are not looked at.
  p.isAlways && s.index.size = s.records.length

def retrieve (s : Subset) (release : Release) (p : Predicate) (fanout : Fanout) :
    Except QueryError Subset :=
  if s.isWhole p then .ok s
  else ((fanout.morsels s.firsts).reduce (select release p) both).map Subset.mk

theorem retrieve_eq_select (s : Subset) (release : Release) (p : Predicate) (fanout : Fanout)
    (h : s.isWhole p = false) :
    s.retrieve release p fanout = (select release p s.firsts).map Subset.mk := by
  simp [retrieve, h, Cut.reduce_eq (both_select release p)]

end Subset

end Census
