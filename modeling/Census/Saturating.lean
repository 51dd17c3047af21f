set_option autoImplicit false

namespace Census

def clamp (n : Int) : Int64 :=
  if n < Int64.minValue.toInt then Int64.minValue
  else if Int64.maxValue.toInt < n then Int64.maxValue
  else Int64.ofInt n

theorem toInt_minValue : Int64.minValue.toInt = -9223372036854775808 := by
  decide

theorem toInt_maxValue : Int64.maxValue.toInt = 9223372036854775807 := by
  decide

theorem toInt_bounds (a : Int64) :
    Int64.minValue.toInt ≤ a.toInt ∧ a.toInt ≤ Int64.maxValue.toInt := by
  have lower := a.le_toInt
  have upper := a.toInt_lt
  rw [toInt_minValue, toInt_maxValue]
  omega

theorem toInt_clamp (n : Int) :
    (clamp n).toInt =
      if n < Int64.minValue.toInt then Int64.minValue.toInt
      else if Int64.maxValue.toInt < n then Int64.maxValue.toInt
      else n := by
  unfold clamp
  split
  · rfl
  · split
    · rfl
    · rename_i low high
      rw [toInt_minValue] at low
      rw [toInt_maxValue] at high
      exact Int64.toInt_ofInt_of_le (by omega) (by omega)

theorem clamp_toInt (a : Int64) : clamp a.toInt = a := by
  have bounds := toInt_bounds a
  apply Int64.toInt_inj.mp
  rw [toInt_clamp, if_neg (by omega), if_neg (by omega)]

def satAdd (a b : Int64) : Int64 :=
  clamp (a.toInt + b.toInt)

def satSub (a b : Int64) : Int64 :=
  clamp (a.toInt - b.toInt)

def satMul (a b : Int64) : Int64 :=
  clamp (a.toInt * b.toInt)

def satSum (values : List Int64) : Int64 :=
  values.foldl satAdd 0

@[simp] theorem satAdd_zero (a : Int64) : satAdd a 0 = a := by
  simp [satAdd, clamp_toInt]

end Census
