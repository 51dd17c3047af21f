set_option autoImplicit false

namespace Census

inductive ValueKind where
  | long
  | text
  | flag
  | date
  deriving DecidableEq

def ValueKind.name : ValueKind → String
  | .long => "long"
  | .text => "string"
  | .flag => "boolean"
  | .date => "date"

def ValueKind.describe : ValueKind → String
  | .long => "Long"
  | .text => "Str"
  | .flag => "Bool"
  | .date => "Date"

inductive QueryError where
  | unknownSet (name : String) (valid : List String)
  | unresolvedFilter (field : String) (valid : List String)
  | unsupportedOperator (field operator : String) (kind : ValueKind) (valid : List String)
  | malformedOperand (context operand reason : String)
  | unknownAggregation (name : String) (valid : List String)
  | unknownFindMode (mode : String) (valid : List String)
  | invariantViolation (what : String)
  | sink (what : String)
  deriving DecidableEq

namespace QueryError

def listed (valid : List String) : String :=
  ", ".intercalate valid

def message : QueryError → String
  | .unknownSet name valid =>
    "Unknown set '" ++ name ++ "'; valid sets are: " ++ listed valid
  | .unresolvedFilter field valid =>
    "Unresolved filter '" ++ field ++ "'; valid filters are: " ++ listed valid
  | .unsupportedOperator field operator kind valid =>
    "Unsupported operator '" ++ operator ++ "' for " ++ kind.name ++ " attribute '" ++ field
      ++ "'; valid operators are: " ++ listed valid
  | .malformedOperand context operand reason =>
    "Malformed operand '" ++ operand ++ "' for '" ++ context ++ "': " ++ reason
  | .unknownAggregation name valid =>
    "Unknown aggregation '" ++ name ++ "'; valid aggregations are: " ++ listed valid
  | .unknownFindMode mode valid =>
    "Unknown find mode '" ++ mode ++ "'; valid modes are: " ++ listed valid
  | .invariantViolation what => "Invariant violation: " ++ what
  | .sink what => "IO error: " ++ what

def wrapped (e : QueryError) : String :=
  "Query error: " ++ e.message

def label : QueryError → String
  | .unknownSet .. => "unknown_set"
  | .unresolvedFilter .. => "unresolved_filter"
  | .unsupportedOperator .. => "unsupported_operator"
  | .malformedOperand .. => "malformed_operand"
  | .unknownAggregation .. => "unknown_aggregation"
  | .unknownFindMode .. => "unknown_find_mode"
  | .invariantViolation .. => "invariant_violation"
  | .sink .. => "io"

/-- Whether the request is at fault rather than the data or the receiver of the output. -/
def isInputError : QueryError → Bool
  | .invariantViolation .. | .sink .. => false
  | _ => true

end QueryError

end Census
