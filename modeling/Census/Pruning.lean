import Census.Comparison
import Census.Histogram
import Census.Text.Blank

set_option autoImplicit false

namespace Census

def segments (mark : Char) (spec : String) : List String :=
  ((Text.parts mark spec).map Text.trim).filter (· ≠ "")

structure Conditions where
  comparisons : List LongComparison
  deriving DecidableEq

namespace Conditions

def parse (spec : String) (now : Int64) : Except QueryError Conditions := do
  return ⟨← (segments ';' spec).mapM (LongComparison.parse "condition" · now)⟩

def check (conditions : Conditions) (value : Int64) : Bool :=
  conditions.comparisons.all (·.test value)

def prune (h : Histogram Int64) (spec : String) (now : Int64) :
    Except QueryError (Histogram Int64) := do
  let conditions ← parse spec now
  return h.filter fun _ value => conditions.check value

end Conditions

structure IndexedConditions where
  comparisons : List (Nat × LongComparison)
  deriving DecidableEq

namespace IndexedConditions

def parseOne (now : Int64) (triplet : String) : Except QueryError (Nat × LongComparison) := do
  let (index, condition) ← splitSpec "condition" triplet
  match Text.word64 index with
  | .ok place => return (place.toNat, ← LongComparison.parse "condition" condition now)
  | .error fault => throw (.malformedOperand "condition index" index fault.message)

def parse (spec : String) (now : Int64) : Except QueryError IndexedConditions := do
  return ⟨← (segments ',' spec).mapM (parseOne now)⟩

def checkAll (values : List Int64) : List (Nat × LongComparison) → Except QueryError Bool
  -- The comparisons are looked at in turn, up to the first that fails or has no value to test.
  | [] => .ok true
  | (place, comparison) :: rest =>
    match values[place]? with
    | none =>
      .error (.malformedOperand "condition index" (Text.decimal place)
        ("bucket holds " ++ Text.decimal values.length ++ " values"))
    | some value => if comparison.test value then checkAll values rest else .ok false

def check (conditions : IndexedConditions) (values : List Int64) : Except QueryError Bool :=
  checkAll values conditions.comparisons

def passing (conditions : IndexedConditions) :
    List (String × List Int64) → Except QueryError (List (String × List Int64))
  | [] => .ok []
  | (label, values) :: rest => do
    let kept ← conditions.check values
    let others ← passing conditions rest
    return if kept then (label, values) :: others else others

def prune (h : Histogram (List Int64)) (spec : String) (now : Int64) :
    Except QueryError (Histogram (List Int64)) := do
  let conditions ← parse spec now
  let kept ← conditions.passing h.entries
  return h.restrict kept

end IndexedConditions

end Census
