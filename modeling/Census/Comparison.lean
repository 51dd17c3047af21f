import Census.Operator
import Census.QueryError
import Census.Saturating
import Census.Text.Field
import Census.Text.Numeral

set_option autoImplicit false

namespace Census

/-- The parts of an `operator:operand` text, whose operand may hold further colons. -/
def splitSpec (context spec : String) : Except QueryError (String × String) :=
  match Text.cutFirst ':' spec.toList with
  | some (operator, operand) => .ok (String.ofList operator, String.ofList operand)
  | none => .error (.malformedOperand context spec "expected 'operator:operand'")

theorem splitSpec_append {context : String} {operator operand : List Char} (h : ':' ∉ operator) :
    splitSpec context (String.ofList (operator ++ ':' :: operand)) =
      .ok (String.ofList operator, String.ofList operand) := by
  simp [splitSpec, Text.cutFirst_append h]

/-- A test of an integer, with times already settled against a clock. -/
structure LongComparison where
  op : LongOp
  operand : Int64
  now : Int64
  deriving DecidableEq

namespace LongComparison

def before (now operand : Int64) (unit : TimeUnit) : Int64 :=
  satSub now (satMul operand unit.millis)

def relation (c : LongComparison) : Relation :=
  match c.op with
  | .compare relation => relation
  | .within _ => .gte
  | .olderThan _ => .lte

def threshold (c : LongComparison) : Int64 :=
  match c.op with
  | .compare _ => c.operand
  | .within unit => before c.now c.operand unit
  | .olderThan unit => before c.now c.operand unit

def test (c : LongComparison) (value : Int64) : Bool :=
  c.relation.holds value c.threshold

def compile (context operator operand : String) (now : Int64) :
    Except QueryError LongComparison :=
  match LongOp.named? operator with
  | none => .error (.unsupportedOperator context operator .long LongOp.names)
  | some op =>
    match Text.int64 operand with
    | .ok value => .ok ⟨op, value, now⟩
    | .error fault =>
      .error (.malformedOperand (context ++ ":" ++ operator) operand fault.message)

def parse (context spec : String) (now : Int64) : Except QueryError LongComparison := do
  let (operator, operand) ← splitSpec context spec
  compile context operator operand now

end LongComparison

end Census
