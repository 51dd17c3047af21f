import Census.QueryError
import Census.Text.Numeral

set_option autoImplicit false

namespace Census

def ascends : List Int64 → Bool
  | a :: b :: rest => a < b && ascends (b :: rest)
  | _ => true

def descent? : List Int64 → Option (Int64 × Int64)
  | a :: b :: rest => if b ≤ a then some (a, b) else descent? (b :: rest)
  | _ => none

structure RangedLayout where
  thresholds : List Int64
  labels : List String
  labelled : labels.length = thresholds.length + 1
  ascending : ascends thresholds = true

namespace RangedLayout

theorem ascends_of_descent?_eq_none {values : List Int64} (h : descent? values = none) :
    ascends values = true := by
  fun_induction descent? values with
  | case1 => simp at h
  | case2 a b rest above ih =>
    have below : a < b := by
      rw [Int64.lt_iff_toInt_lt]
      rw [Int64.le_iff_toInt_le] at above
      omega
    simp [ascends, below, ih h]
  | case3 values short =>
    unfold ascends
    split
    · exact absurd rfl (short _ _ _)
    · rfl

def of (thresholds : List Int64) (labels : List String) : Except QueryError RangedLayout :=
  if labelled : labels.length = thresholds.length + 1 then
    match found : descent? thresholds with
    | some (a, b) =>
      .error (.malformedOperand "layout"
        (Text.decimal a.toInt ++ " >= " ++ Text.decimal b.toInt)
        "thresholds must be strictly ascending")
    | none => .ok ⟨thresholds, labels, labelled, ascends_of_descent?_eq_none found⟩
  else
    .error (.malformedOperand "layout"
      (Text.decimal thresholds.length ++ " thresholds, " ++ Text.decimal labels.length ++ " labels")
      "expected one label per threshold plus an overflow label")

def size (layout : RangedLayout) : Nat :=
  layout.labels.length

def bucketOf (layout : RangedLayout) (value : Int64) : Nat :=
  (layout.thresholds.takeWhile (· < value)).length

theorem bucketOf_lt_size (layout : RangedLayout) (value : Int64) :
    layout.bucketOf value < layout.size := by
  have := (List.takeWhile_sublist (p := (· < value)) (l := layout.thresholds)).length_le
  simp only [bucketOf, size, layout.labelled]
  omega

end RangedLayout

end Census
