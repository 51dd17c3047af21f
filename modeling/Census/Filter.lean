import Census.Predicate

set_option autoImplicit false

namespace Census.Filter

def flag? (operand : String) : Option Bool :=
  if Text.lowered operand = "true" then some true
  else if Text.lowered operand = "false" then some false
  else none

def condition (a : Attribute) (operator operand : String) (now : Int64) :
    Except QueryError Predicate :=
  let unsupported (valid : List String) : QueryError :=
    .unsupportedOperator a.name operator a.kind valid
  let malformed (reason : String) : QueryError :=
    .malformedOperand (a.name ++ ":" ++ operator) operand reason
  match a with
  | .long long => do
    return .long long (← LongComparison.compile a.name operator operand now)
  | .text text =>
    match TextOp.named? operator with
    | none => .error (unsupported TextOp.names)
    | some op => .ok (.text text op operand)
  | .flag flag =>
    match FlagOp.named? operator with
    | none => .error (unsupported FlagOp.names)
    | some op =>
      match flag? operand with
      | none => .error (malformed "expected 'true' or 'false'")
      | some value => .ok (.flag flag op value)
  | .date date =>
    match DateOp.named? operator with
    | none => .error (unsupported DateOp.names)
    | some relation =>
      match Calendar.Day.parse? operand with
      | none => .error (malformed "expected MM/dd/yyyy")
      | some day => .ok (.date date relation day)

def compile (now : Int64) (field spec : String) : Except QueryError Predicate := do
  let a ← Attribute.resolve field
  let (operator, operand) ← splitSpec field spec
  condition a operator operand now

def compileEach (now : Int64) : List (String × String) → Except QueryError (List Predicate)
  | [] => .ok []
  | (field, spec) :: rest => do
    let p ← compile now field spec
    let ps ← compileEach now rest
    return p :: ps

def compileAll (now : Int64) (fields specs : List String) : Except QueryError Predicate :=
  if fields.length = specs.length then do
    return .all (← compileEach now (fields.zip specs))
  else
    .error (.malformedOperand "filters"
      (Text.decimal fields.length ++ " fields, " ++ Text.decimal specs.length ++ " specs")
      "every field needs exactly one 'operator:operand' spec")

end Census.Filter
