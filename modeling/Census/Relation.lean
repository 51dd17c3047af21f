set_option autoImplicit false

namespace Census

inductive Relation where
  | eq
  | notEq
  | gt
  | gte
  | lt
  | lte
  deriving DecidableEq

namespace Relation

variable {α : Type} [DecidableEq α] [LT α] [LE α] [DecidableLT α] [DecidableLE α]

def holds (relation : Relation) (a b : α) : Bool :=
  match relation with
  | .eq => a = b
  | .notEq => a ≠ b
  | .gt => b < a
  | .gte => b ≤ a
  | .lt => a < b
  | .lte => a ≤ b

def opposite : Relation → Relation
  | .eq => .notEq
  | .notEq => .eq
  | .gt => .lte
  | .gte => .lt
  | .lt => .gte
  | .lte => .gt

def describe : Relation → String
  | .eq => "Eq"
  | .notEq => "NotEq"
  | .gt => "Gt"
  | .gte => "Gte"
  | .lt => "Lt"
  | .lte => "Lte"

end Relation

end Census
