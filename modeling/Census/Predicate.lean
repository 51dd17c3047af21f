import Census.Attribute
import Census.Comparison

set_option autoImplicit false

namespace Census

inductive Predicate where
  | always
  | long (a : LongAttr) (comparison : LongComparison)
  | text (a : TextAttr) (op : TextOp) (operand : String)
  | flag (a : FlagAttr) (op : FlagOp) (operand : Bool)
  | date (a : DateAttr) (relation : Relation) (operand : Calendar.Day)
  | both (conditions : List Predicate)

namespace Predicate

def all : List Predicate → Predicate
  | [] => .always
  | [p] => p
  | ps => .both ps

def isAlways : Predicate → Bool
  | .always => true
  | _ => false

def noDay (r : Record) (a : DateAttr) : QueryError :=
  .invariantViolation
    ("record " ++ Text.decimal r.id.toInt ++ " (" ++ r.path ++ ") has no valid " ++ a.name)

mutual

def accepts (release : Release) (r : Record) : Predicate → Except QueryError Bool
  | .always => .ok true
  | .long a comparison => .ok (comparison.test (a.value release r))
  | .text a op operand => .ok (op.holds (a.value r) operand)
  | .flag a op operand => .ok (op.holds (a.value r) operand)
  | .date a relation operand =>
    match a.value? r with
    | some day => .ok (relation.holds day operand)
    | none => .error (noDay r a)
  | .both conditions => acceptsAll release r conditions

def acceptsAll (release : Release) (r : Record) : List Predicate → Except QueryError Bool
  -- The conditions are looked at in turn, up to the first that fails.
  | [] => .ok true
  | p :: rest =>
    match accepts release r p with
    | .ok true => acceptsAll release r rest
    | .ok false => .ok false
    | .error e => .error e

end

theorem accepts_all (release : Release) (r : Record) (ps : List Predicate) :
    (all ps).accepts release r = acceptsAll release r ps := by
  match ps with
  | [] => simp [all, accepts, acceptsAll]
  | [p] =>
    simp only [all, acceptsAll]
    cases p.accepts release r with
    | ok b => cases b <;> rfl
    | error e => rfl
  | p :: q :: rest => simp [all, accepts]

theorem acceptsAll_append (release : Release) (r : Record) (ps qs : List Predicate) :
    acceptsAll release r (ps ++ qs) =
      match acceptsAll release r ps with
      | .ok true => acceptsAll release r qs
      | .ok false => .ok false
      | .error e => .error e := by
  induction ps with
  | nil => simp [acceptsAll]
  | cons p rest ih =>
    simp only [List.cons_append, acceptsAll, ih]
    cases p.accepts release r with
    | ok b => cases b <;> rfl
    | error e => rfl

mutual

def describe : Predicate → String
  | .always => "Always"
  | .long a comparison =>
    a.name ++ " " ++ comparison.op.describe ++ " " ++ Text.decimal comparison.operand.toInt
  | .text a op operand => a.name ++ " " ++ op.describe ++ " " ++ Text.quoted operand
  | .flag a op operand =>
    a.name ++ " " ++ op.describe ++ " " ++ (if operand then "true" else "false")
  | .date a relation operand => a.name ++ " " ++ relation.describe ++ " " ++ operand.hyphenated
  | .both conditions => "[" ++ ", ".intercalate (describeEach conditions) ++ "]"

def describeEach : List Predicate → List String
  | [] => []
  | p :: rest => describe p :: describeEach rest

end

end Predicate

end Census
