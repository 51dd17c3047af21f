import Census.Relation
import Census.Text.Field

set_option autoImplicit false

namespace Census

inductive TimeUnit where
  | minutes
  | hours
  | days
  | months
  | years
  deriving DecidableEq

namespace TimeUnit

def millis : TimeUnit → Int64
  -- A month has 30 days and a year 365.
  | .minutes => 60000
  | .hours => 3600000
  | .days => 86400000
  | .months => 30 * 86400000
  | .years => 365 * 86400000

def describe : TimeUnit → String
  | .minutes => "Minutes"
  | .hours => "Hours"
  | .days => "Days"
  | .months => "Months"
  | .years => "Years"

end TimeUnit

inductive LongOp where
  | compare (relation : Relation)
  | within (unit : TimeUnit)
  | olderThan (unit : TimeUnit)
  deriving DecidableEq

namespace LongOp

def table : List (String × LongOp) :=
  [("eq", .compare .eq), ("notEq", .compare .notEq), ("gt", .compare .gt), ("gte", .compare .gte),
   ("lt", .compare .lt), ("lte", .compare .lte),
   ("minutesAgo", .within .minutes), ("hoursAgo", .within .hours), ("daysAgo", .within .days),
   ("monthsAgo", .within .months), ("yearsAgo", .within .years),
   ("olderThanMinutes", .olderThan .minutes), ("olderThanHours", .olderThan .hours),
   ("olderThanDays", .olderThan .days), ("olderThanMonths", .olderThan .months),
   ("olderThanYears", .olderThan .years)]

def names : List String :=
  table.map Prod.fst

def named? (name : String) : Option LongOp :=
  table.lookup name

def describe : LongOp → String
  | .compare relation => relation.describe
  | .within unit => "Within(" ++ unit.describe ++ ")"
  | .olderThan unit => "OlderThan(" ++ unit.describe ++ ")"

end LongOp

inductive TextTest where
  | eq
  | startsWith
  | endsWith
  | contains
  deriving DecidableEq

namespace TextTest

def holds (test : TextTest) (value operand : String) : Bool :=
  match test with
  | .eq => value = operand
  | .startsWith => operand.toList.isPrefixOf value.toList
  | .endsWith => operand.toList.isSuffixOf value.toList
  | .contains => Text.occursIn operand.toList value.toList

def describe : TextTest → String
  | .eq => "Eq"
  | .startsWith => "StartsWith"
  | .endsWith => "EndsWith"
  | .contains => "Contains"

end TextTest

structure TextOp where
  test : TextTest
  negated : Bool
  deriving DecidableEq

namespace TextOp

def table : List (String × TextOp) :=
  [("eq", ⟨.eq, false⟩), ("notEq", ⟨.eq, true⟩),
   ("startsWith", ⟨.startsWith, false⟩), ("notStartsWith", ⟨.startsWith, true⟩),
   ("endsWith", ⟨.endsWith, false⟩), ("notEndsWith", ⟨.endsWith, true⟩),
   ("contains", ⟨.contains, false⟩), ("notContains", ⟨.contains, true⟩)]

def names : List String :=
  table.map Prod.fst

def named? (name : String) : Option TextOp :=
  table.lookup name

def holds (op : TextOp) (value operand : String) : Bool :=
  op.test.holds value operand != op.negated

def opposite (op : TextOp) : TextOp :=
  { op with negated := !op.negated }

@[simp] theorem holds_opposite (op : TextOp) (value operand : String) :
    op.opposite.holds value operand = !op.holds value operand := by
  simp [opposite, holds]

def describe (op : TextOp) : String :=
  (if op.negated then "Not" else "") ++ op.test.describe

end TextOp

structure FlagOp where
  negated : Bool
  deriving DecidableEq

namespace FlagOp

def table : List (String × FlagOp) :=
  [("eq", ⟨false⟩), ("notEq", ⟨true⟩)]

def names : List String :=
  table.map Prod.fst

def named? (name : String) : Option FlagOp :=
  table.lookup name

def holds (op : FlagOp) (value operand : Bool) : Bool :=
  (value == operand) != op.negated

def describe (op : FlagOp) : String :=
  if op.negated then "NotEq" else "Eq"

end FlagOp

namespace DateOp

def table : List (String × Relation) :=
  [("dateEq", .eq), ("dateNotEq", .notEq), ("dateLt", .lt), ("dateLte", .lte),
   ("dateStart", .lte), ("dateGt", .gt), ("dateGte", .gte), ("dateEnd", .gte)]

def names : List String :=
  table.map Prod.fst

def named? (name : String) : Option Relation :=
  table.lookup name

end DateOp

end Census
