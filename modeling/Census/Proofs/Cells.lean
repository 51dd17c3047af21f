import Mathlib.Data.List.Induction
import Census.Bucketing

set_option autoImplicit false

namespace Census

/-- A cell for which it does not matter where a list of values was cut. -/
class LawfulCell (σ : Type) [Cell σ] : Prop where
  merge_empty : ∀ a : σ, Cell.merge a Cell.empty = a
  merge_add : ∀ (a b : σ) (v : Int64), Cell.merge a (Cell.add b v) = Cell.add (Cell.merge a b) v
  finishes : ∀ values, ∃ v, Cell.finish (Cell.addAll (Cell.empty : σ) values) = .ok v

namespace Cell

variable {σ : Type} [Cell σ]

theorem addAll_snoc (cell : σ) (values : List Int64) (v : Int64) :
    addAll cell (values ++ [v]) = add (addAll cell values) v := by
  simp [addAll, List.foldl_append]

theorem merge_addAll [LawfulCell σ] (xs ys : List Int64) :
    merge (addAll (empty : σ) xs) (addAll empty ys) = addAll empty (xs ++ ys) := by
  induction ys using List.reverseRecOn with
  | nil =>
    rw [List.append_nil]
    exact LawfulCell.merge_empty _
  | append_singleton ys v ih =>
    rw [addAll_snoc, LawfulCell.merge_add, ih, ← List.append_assoc, addAll_snoc]

end Cell

theorem toInt_max (a b : Int64) : (max a b).toInt = max a.toInt b.toInt := by
  change (if a ≤ b then b else a).toInt = _
  split
  next below => have := Int64.le_iff_toInt_le.mp below; omega
  next above => have := mt Int64.le_iff_toInt_le.mpr above; omega

theorem toInt_min (a b : Int64) : (min a b).toInt = min a.toInt b.toInt := by
  change (if a ≤ b then a else b).toInt = _
  split
  next below => have := Int64.le_iff_toInt_le.mp below; omega
  next above => have := mt Int64.le_iff_toInt_le.mpr above; omega

theorem maxWord_assoc (a b c : Int64) : max (max a b) c = max a (max b c) :=
  Int64.toInt_inj.mp (by simp only [toInt_max, Int.max_assoc])

theorem minWord_assoc (a b c : Int64) : min (min a b) c = min a (min b c) :=
  Int64.toInt_inj.mp (by simp only [toInt_min, Int.min_assoc])

instance int64LawfulOrderMax : Std.LawfulOrderMax Int64 where
  max_le_iff a b c := by
    simp only [Int64.le_iff_toInt_le, toInt_max]
    omega
  max_eq_or a b := by
    simp only [← Int64.toInt_inj, toInt_max]
    omega

instance int64LawfulOrderMin : Std.LawfulOrderMin Int64 where
  le_min_iff a b c := by
    simp only [Int64.le_iff_toInt_le, toInt_min]
    omega
  min_eq_or a b := by
    simp only [← Int64.toInt_inj, toInt_min]
    omega

instance : LawfulCell MaxCell where
  merge_empty _ := rfl
  merge_add a b v := by
    obtain ⟨a⟩ := a
    obtain ⟨b⟩ := b
    cases a <;> cases b <;> simp [Cell.merge, Cell.add, MaxCell.add, maxWord_assoc]
  finishes _ := ⟨_, rfl⟩

instance : LawfulCell MinCell where
  merge_empty _ := rfl
  merge_add a b v := by
    obtain ⟨a⟩ := a
    obtain ⟨b⟩ := b
    cases a <;> cases b <;> simp [Cell.merge, Cell.add, MinCell.add, minWord_assoc]
  finishes _ := ⟨_, rfl⟩

theorem floorDiv_eq_ediv (sum : Int) {count : Nat} (positive : 0 < count) :
    floorDiv sum count = sum / count := by
  by_cases negative : sum < 0
  next =>
    by_cases whole : sum.tmod count = 0
    next =>
      rw [floorDiv, if_neg (fun rounded => rounded.2 whole),
        Int.tdiv_eq_ediv_of_dvd (Int.dvd_of_tmod_eq_zero whole)]
    next =>
      -- Toward zero is upward here, by the fraction that is left.
      have rounded : sum.tdiv count = sum / count + 1 := by
        rw [Int.tdiv_eq_ediv, if_neg (not_or.mpr ⟨by omega, mt Int.tmod_eq_zero_of_dvd whole⟩),
          Int.sign_eq_one_of_pos (by omega)]
      rw [floorDiv, if_pos ⟨negative, whole⟩, rounded]
      omega
  next =>
    rw [floorDiv, if_neg (fun rounded => negative rounded.1),
      Int.tdiv_eq_ediv_of_nonneg (Int.not_lt.mp negative)]

namespace AvgCell

def Between (low high : Int) (cell : AvgCell) : Prop :=
  low * cell.count ≤ cell.sum ∧ cell.sum ≤ high * cell.count

def Bounded (cell : AvgCell) : Prop :=
  cell.Between Int64.minValue.toInt Int64.maxValue.toInt

theorem between_addAll {low high : Int} {values : List Int64}
    (each : ∀ v ∈ values, low ≤ v.toInt ∧ v.toInt ≤ high) :
    (Cell.addAll (Cell.empty : AvgCell) values).Between low high := by
  induction values using List.reverseRecOn with
  | nil => simp [Cell.addAll, Cell.empty, Between]
  | append_singleton values v ih =>
    -- One more value moves both bounds by what it can be.
    have earlier := ih fun w member => each w (by simp [member])
    have last := each v (by simp)
    rw [Cell.addAll_snoc]
    simp only [Between, Cell.add, Int.natCast_add, Int.natCast_one, Int.mul_add, Int.mul_one]
      at earlier ⊢
    omega

theorem bounded_addAll (values : List Int64) :
    (Cell.addAll (Cell.empty : AvgCell) values).Bounded :=
  between_addAll fun v _ => toInt_bounds v

theorem mean_eq_of_between {low high : Int} {cell : AvgCell} (between : cell.Between low high) :
    cell.mean = cell.sum / cell.count := by
  by_cases none_seen : cell.count = 0
  next =>
    have nothing : cell.sum = 0 := by
      have both := between
      simp only [Between, none_seen] at both
      omega
    simp [mean, floorDiv, none_seen, nothing]
  next => exact floorDiv_eq_ediv cell.sum (Nat.pos_of_ne_zero none_seen)

theorem mean_between {low high : Int} {cell : AvgCell} (between : cell.Between low high)
    (some_seen : 0 < cell.count) : low ≤ cell.mean ∧ cell.mean ≤ high := by
  have positive : (0 : Int) < cell.count := by omega
  rw [mean_eq_of_between between]
  exact ⟨(Int.le_ediv_iff_mul_le positive).mpr between.1,
    Int.ediv_le_of_le_mul positive between.2⟩

theorem mean_of_none {cell : AvgCell} (bounded : cell.Bounded) (none_seen : cell.count = 0) :
    cell.mean = 0 := by
  simp [mean_eq_of_between bounded, none_seen]

theorem toInt_clamp_mean {cell : AvgCell} (bounded : cell.Bounded) :
    (clamp cell.mean).toInt = cell.mean := by
  by_cases none_seen : cell.count = 0
  · rw [mean_of_none bounded none_seen]
    decide
  · have inside := mean_between bounded (Nat.pos_of_ne_zero none_seen)
    rw [toInt_clamp, if_neg (by omega), if_neg (by omega)]

theorem finish_of_bounded {cell : AvgCell} (bounded : cell.Bounded) :
    cell.finish = .ok (clamp cell.mean) := by
  unfold finish
  by_cases none_seen : cell.count = 0
  · rw [if_pos none_seen, mean_of_none bounded none_seen]
    rfl
  · rw [if_neg none_seen, if_pos (toInt_clamp_mean bounded)]

end AvgCell

instance : LawfulCell AvgCell where
  merge_empty a := by simp [Cell.merge, Cell.empty]
  merge_add a b v := by simp [Cell.merge, Cell.add, Int.add_assoc, Nat.add_assoc]
  finishes values := ⟨_, AvgCell.finish_of_bounded (AvgCell.bounded_addAll values)⟩

end Census
