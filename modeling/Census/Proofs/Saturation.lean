import Mathlib.Data.List.Induction
import Census.Saturating

set_option autoImplicit false

namespace Census

def withinWords (n : Int) : Int :=
  max Int64.minValue.toInt (min n Int64.maxValue.toInt)

theorem toInt_clamp_eq_withinWords (n : Int) : (clamp n).toInt = withinWords n := by
  rw [toInt_clamp, withinWords, toInt_minValue, toInt_maxValue]
  split
  · omega
  · split <;> omega

theorem toInt_satMul (a b : Int64) : (satMul a b).toInt = withinWords (a.toInt * b.toInt) :=
  toInt_clamp_eq_withinWords _

theorem toInt_satAdd (a b : Int64) : (satAdd a b).toInt = withinWords (a.toInt + b.toInt) :=
  toInt_clamp_eq_withinWords _

-- What is past the words once stays past them, as only more is added to it.
theorem withinWords_add_withinWords {a n : Int} (left : 0 ≤ a) (right : 0 ≤ n) :
    withinWords (a + withinWords n) = withinWords (a + n) := by
  simp only [withinWords, toInt_minValue, toInt_maxValue]
  omega

def exactSum : List Int64 → Int
  | [] => 0
  | v :: values => v.toInt + exactSum values

def NonNeg (values : List Int64) : Prop :=
  ∀ v ∈ values, 0 ≤ v.toInt

theorem exactSum_append (xs ys : List Int64) :
    exactSum (xs ++ ys) = exactSum xs + exactSum ys := by
  induction xs with
  | nil => simp [exactSum]
  | cons v xs ih => simp [exactSum, ih, Int.add_assoc]

theorem nonNeg_map {α : Type} {f : α → Int64} {items : List α}
    (nonneg : ∀ x ∈ items, 0 ≤ (f x).toInt) : NonNeg (items.map f) := by
  intro v member
  obtain ⟨x, inside, rfl⟩ := List.mem_map.mp member
  exact nonneg x inside

theorem nonNeg_map_filter {α : Type} {f : α → Int64} {items : List α}
    (nonneg : ∀ x ∈ items, 0 ≤ (f x).toInt) (keep : α → Bool) :
    NonNeg ((items.filter keep).map f) :=
  nonNeg_map fun x member => nonneg x (List.mem_filter.mp member).1

theorem exactSum_nonneg {values : List Int64} (nonneg : NonNeg values) : 0 ≤ exactSum values := by
  induction values with
  | nil => exact Int.le_refl 0
  | cons v rest ih =>
    have head := nonneg v (by simp)
    have tail := ih fun w member => nonneg w (by simp [member])
    exact Int.add_nonneg head tail

theorem toInt_satAdd_of_nonneg {a b : Int64} (left : 0 ≤ a.toInt) (right : 0 ≤ b.toInt) :
    (satAdd a b).toInt = min Int64.maxValue.toInt (a.toInt + b.toInt) := by
  rw [toInt_satAdd, withinWords, toInt_minValue, toInt_maxValue]
  omega

theorem satSum_snoc (values : List Int64) (v : Int64) :
    satSum (values ++ [v]) = satAdd (satSum values) v := by
  simp [satSum, List.foldl_append]

theorem toInt_satSum_of_nonneg {values : List Int64} (nonneg : NonNeg values) :
    (satSum values).toInt = min Int64.maxValue.toInt (exactSum values) := by
  induction values using List.reverseRecOn with
  | nil => decide
  | append_singleton values v ih =>
    have earlier : NonNeg values := fun w member => nonneg w (by simp [member])
    have last : 0 ≤ v.toInt := nonneg v (by simp)
    have start := ih earlier
    have total := exactSum_nonneg earlier
    have single : exactSum [v] = v.toInt := by simp [exactSum]
    have above := toInt_maxValue
    rw [satSum_snoc, toInt_satAdd_of_nonneg (by omega) last, start, exactSum_append, single]
    omega

theorem satSum_nonneg {values : List Int64} (nonneg : NonNeg values) :
    0 ≤ (satSum values).toInt := by
  have total := exactSum_nonneg nonneg
  have above := toInt_maxValue
  rw [toInt_satSum_of_nonneg nonneg]
  omega

theorem toInt_satSum_satSums (parts : List (List Int64)) (nonneg : ∀ part ∈ parts, NonNeg part) :
    (satSum (parts.map satSum)).toInt =
      min Int64.maxValue.toInt (exactSum parts.flatten) := by
  have each : NonNeg (parts.map satSum) :=
    nonNeg_map fun part inside => satSum_nonneg (nonneg part inside)
  rw [toInt_satSum_of_nonneg each]
  clear each
  -- A part that reaches the greatest word takes the whole there too, since none is negative.
  induction parts with
  | nil => rfl
  | cons part rest ih =>
    have head := nonneg part (by simp)
    have tail : ∀ other ∈ rest, NonNeg other := fun other member => nonneg other (by simp [member])
    have rest_nonneg : NonNeg rest.flatten := by
      intro v member
      obtain ⟨other, inside, here⟩ := List.mem_flatten.mp member
      exact tail other inside v here
    have flat_total := exactSum_nonneg rest_nonneg
    have each_total : 0 ≤ exactSum (rest.map satSum) :=
      exactSum_nonneg (nonNeg_map fun other inside => satSum_nonneg (tail other inside))
    have later := ih tail
    have total := exactSum_nonneg head
    rw [List.map_cons, exactSum, toInt_satSum_of_nonneg head, List.flatten_cons, exactSum_append]
    omega

theorem exactSum_ones (n : Nat) : exactSum (List.replicate n 1) = n := by
  have one : (1 : Int64).toInt = 1 := by decide
  induction n with
  | zero => rfl
  | succ n ih =>
    rw [List.replicate_succ, exactSum, ih, one]
    omega

theorem toInt_clamp_natCast (n : Nat) : (clamp n).toInt = min Int64.maxValue.toInt n := by
  rw [toInt_clamp_eq_withinWords, withinWords, toInt_minValue, toInt_maxValue]
  omega

theorem satSum_ones (n : Nat) : satSum (List.replicate n 1) = clamp n := by
  have ones : NonNeg (List.replicate n 1) := by
    intro v member
    obtain rfl := List.eq_of_mem_replicate member
    decide
  apply Int64.toInt_inj.mp
  rw [toInt_satSum_of_nonneg ones, exactSum_ones, toInt_clamp_natCast]

end Census
