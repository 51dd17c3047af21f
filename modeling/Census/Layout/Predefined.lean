import Census.Layout.Ranged
import Census.Text.Field

set_option autoImplicit false

namespace Census

namespace RangedLayout

def kibi : Int64 := 1024

def mebi : Int64 := 1024 * kibi

def gibi : Int64 := 1024 * mebi

def tebi : Int64 := 1024 * gibi

def spaceSize : RangedLayout where
  thresholds :=
    [0, kibi, mebi, 32 * mebi, 64 * mebi, 128 * mebi, 256 * mebi, 512 * mebi, gibi, 10 * gibi,
     100 * gibi, tebi]
  labels :=
    ["0B", "1KB", "1MB", "32MB", "64MB", "128MB", "256MB", "512MB", "1GB", "10GB", "100GB", "1TB",
     ">1TB"]
  labelled := by decide
  ascending := by decide

def memorySize : RangedLayout where
  thresholds :=
    [0, 100, kibi, 10 * kibi, 100 * kibi, mebi, 10 * mebi, 100 * mebi, gibi]
  labels :=
    ["0B", "100B", "1KB", "10KB", "100KB", "1MB", "10MB", "100MB", "1GB", ">1GB"]
  labelled := by decide
  ascending := by decide

end RangedLayout

inductive TimeRange where
  | hours
  | days
  | weeks
  | months
  | years
  deriving DecidableEq

namespace TimeRange

def standard : TimeRange := .months

def table : List (String × TimeRange) :=
  [("hours", .hours), ("days", .days), ("weeks", .weeks), ("months", .months), ("years", .years)]

def names : List String :=
  table.map Prod.fst

def name : TimeRange → String
  | .hours => "hours"
  | .days => "days"
  | .weeks => "weeks"
  | .months => "months"
  | .years => "years"

def resolve (text : String) : Except QueryError TimeRange :=
  match table.lookup (Text.lowered text) with
  | some range => .ok range
  | none =>
    .error (.malformedOperand "timeRange" text ("expected one of " ++ QueryError.listed names))

def unit : TimeRange → Int64
  -- A month has 30 days and a year 365.
  | .hours => 3600000
  | .days => 86400000
  | .weeks => 7 * 86400000
  | .months => 30 * 86400000
  | .years => 365 * 86400000

def bounds : TimeRange → List Int64
  | .hours => [1, 2, 4, 8, 12, 24]
  | .days => [1, 2, 3, 7, 14, 30]
  | .weeks => [1, 2, 3, 4, 8, 12]
  | .months => [1, 3, 6, 9, 12, 18, 24]
  | .years => [1, 2, 3, 4, 5, 10]

/-- Labels for ages, such as `0-1h`, `1-2h` and at last `>24h`. -/
def labels : TimeRange → List String
  | .hours => ["0-1h", "1-2h", "2-4h", "4-8h", "8-12h", "12-24h", ">24h"]
  | .days => ["0-1d", "1-2d", "2-3d", "3-7d", "7-14d", "14-30d", ">30d"]
  | .weeks => ["0-1w", "1-2w", "2-3w", "3-4w", "4-8w", "8-12w", ">12w"]
  | .months => ["0-1m", "1-3m", "3-6m", "6-9m", "9-12m", "12-18m", "18-24m", ">24m"]
  | .years => ["0-1y", "1-2y", "2-3y", "3-4y", "4-5y", "5-10y", ">10y"]

def layout (range : TimeRange) : RangedLayout where
  thresholds := range.bounds.map (· * range.unit)
  labels := range.labels
  labelled := by cases range <;> decide
  ascending := by cases range <;> decide

end TimeRange

end Census
