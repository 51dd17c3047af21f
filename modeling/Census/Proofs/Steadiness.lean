import Mathlib.Data.List.Basic
import Census.Cut
import Census.Proofs.Saturation

set_option autoImplicit false

namespace Census

def tally (share : Int64 → Int) : List Int64 → Int
  | [] => 0
  | v :: values => share v + tally share values

section Tally

variable (share : Int64 → Int)

theorem tally_append (xs ys : List Int64) :
    tally share (xs ++ ys) = tally share xs + tally share ys := by
  induction xs with
  | nil => simp [tally]
  | cons v rest ih => simp only [List.cons_append, tally, ih, Int.add_assoc]

theorem tally_perm {xs ys : List Int64} (same : xs.Perm ys) : tally share xs = tally share ys := by
  induction same with
  | nil => rfl
  | cons v _ ih => simp only [tally, ih]
  | swap v w rest => simp only [tally]; omega
  | trans _ _ first second => exact first.trans second

variable {share}

theorem tally_nonneg (nonneg : ∀ v, 0 ≤ share v) (values : List Int64) : 0 ≤ tally share values := by
  induction values with
  | nil => exact Int.le_refl 0
  | cons v rest ih => exact Int.add_nonneg (nonneg v) ih

theorem tally_le_of_sublist (nonneg : ∀ v, 0 ≤ share v) {xs ys : List Int64}
    (sub : xs.Sublist ys) : tally share xs ≤ tally share ys := by
  induction sub with
  | slnil => exact Int.le_refl 0
  | cons v _ ih => exact Int.le_trans ih (Int.le_add_of_nonneg_left (nonneg v))
  | cons_cons v _ ih => exact Int.add_le_add_left ih (share v)

theorem tally_eq_zero {values : List Int64} (zero : ∀ v ∈ values, share v = 0) :
    tally share values = 0 := by
  induction values with
  | nil => rfl
  | cons v rest ih =>
    rw [tally, zero v (by simp), ih fun w member => zero w (by simp [member])]
    rfl

end Tally

def gain (v : Int64) : Int :=
  max v.toInt 0

def loss (v : Int64) : Int :=
  max (-v.toInt) 0

theorem gain_nonneg (v : Int64) : 0 ≤ gain v :=
  Int.le_max_right _ _

theorem loss_nonneg (v : Int64) : 0 ≤ loss v :=
  Int.le_max_right _ _

/-- The values that pull a sum one way stay within the words, unless none pulls the other way. -/
structure Steady (values : List Int64) : Prop where
  above : 0 < tally loss values → tally gain values ≤ Int64.maxValue.toInt
  below : 0 < tally gain values → tally loss values ≤ -Int64.minValue.toInt

namespace Steady

theorem of_nonneg {values : List Int64} (nonneg : NonNeg values) : Steady values := by
  have lossless : tally loss values = 0 := tally_eq_zero fun v member => by
    have := nonneg v member
    unfold loss
    omega
  constructor
  · intro some_loss
    omega
  · intro _
    rw [lossless, toInt_minValue]
    decide

theorem perm {xs ys : List Int64} (steady : Steady xs) (same : xs.Perm ys) : Steady ys where
  above := by rw [← tally_perm gain same, ← tally_perm loss same]; exact steady.above
  below := by rw [← tally_perm gain same, ← tally_perm loss same]; exact steady.below

theorem sublist {xs ys : List Int64} (steady : Steady ys) (sub : xs.Sublist ys) : Steady xs := by
  have raised := tally_le_of_sublist gain_nonneg sub
  have lowered := tally_le_of_sublist loss_nonneg sub
  constructor
  · intro some_loss
    have limit := steady.above (by omega)
    omega
  · intro some_gain
    have limit := steady.below (by omega)
    omega

theorem parts {xs ys : List Int64} (steady : Steady (xs ++ ys)) : Steady xs ∧ Steady ys :=
  ⟨steady.sublist (List.sublist_append_left xs ys), steady.sublist (List.sublist_append_right xs ys)⟩

theorem satSum_eq_clamp {values : List Int64} (steady : Steady values) :
    satSum values = clamp (tally gain values - tally loss values) := by
  induction values using List.reverseRecOn with
  | nil => decide
  | append_singleton values v ih =>
    have earlier := ih steady.parts.1
    have raised := tally_nonneg gain_nonneg values
    have lowered := tally_nonneg loss_nonneg values
    have word := toInt_bounds v
    obtain ⟨above, below⟩ := steady
    apply Int64.toInt_inj.mp
    rw [satSum_snoc, earlier, satAdd]
    simp only [tally_append, tally, gain, loss, toInt_clamp, toInt_minValue, toInt_maxValue]
      at above below word ⊢
    split <;> split <;> omega

theorem satAdd_satSum {xs ys : List Int64} (steady : Steady (xs ++ ys)) :
    satAdd (satSum xs) (satSum ys) = satSum (xs ++ ys) := by
  have ⟨left, right⟩ := steady.parts
  have raised := tally_nonneg gain_nonneg xs
  have lowered := tally_nonneg loss_nonneg xs
  have raised_right := tally_nonneg gain_nonneg ys
  have lowered_right := tally_nonneg loss_nonneg ys
  rw [steady.satSum_eq_clamp, left.satSum_eq_clamp, right.satSum_eq_clamp]
  obtain ⟨above, below⟩ := steady
  apply Int64.toInt_inj.mp
  simp only [satAdd, tally_append, toInt_clamp, toInt_minValue, toInt_maxValue] at above below ⊢
  split <;> split <;> split <;> omega

end Steady

def pull (values : List Int64) : Int :=
  tally gain values - tally loss values

def OneWay (values : List Int64) : Prop :=
  tally loss values = 0 ∨ tally gain values = 0

theorem foldl_satAdd_of_oneWay {values : List Int64} (oneWay : OneWay values) (start : Int64) :
    values.foldl satAdd start = clamp (start.toInt + pull values) := by
  induction values generalizing start with
  | nil => simp [pull, tally, clamp_toInt]
  | cons v rest ih =>
    have raised := tally_nonneg gain_nonneg rest
    have lowered := tally_nonneg loss_nonneg rest
    have up := gain_nonneg v
    have down := loss_nonneg v
    have word := toInt_bounds start
    unfold OneWay at oneWay ih
    simp only [tally] at oneWay
    rw [List.foldl_cons, ih (by omega)]
    apply Int64.toInt_inj.mp
    simp only [pull, tally, satAdd, gain, loss, toInt_clamp, toInt_minValue, toInt_maxValue]
      at oneWay up down word ⊢
    split <;> split <;> omega

theorem satSum_of_oneWay {values : List Int64} (oneWay : OneWay values) :
    satSum values = clamp (pull values) := by
  have whole := foldl_satAdd_of_oneWay oneWay 0
  rwa [Int64.toInt_zero, Int.zero_add] at whole

/-- Values that leave the words are clamped as a part, but not after values of the other sign. -/
theorem satAdd_satSum_ne {xs ys : List Int64} (left : OneWay xs) (right : OneWay ys)
    (apart : (pull xs < 0 ∧ Int64.maxValue.toInt < pull ys) ∨
      (0 < pull xs ∧ pull ys < Int64.minValue.toInt)) :
    satAdd (satSum xs) (satSum ys) ≠ satSum (xs ++ ys) := by
  have together : satSum (xs ++ ys) = clamp ((satSum xs).toInt + pull ys) := by
    rw [← foldl_satAdd_of_oneWay right]
    exact List.foldl_append
  intro same
  have sums := congrArg Int64.toInt (same.trans together)
  rw [satSum_of_oneWay left, satSum_of_oneWay right] at sums
  simp only [satAdd, toInt_clamp, toInt_minValue, toInt_maxValue] at apart sums
  split at sums <;> split at sums <;> split at sums <;> omega

theorem exists_cut_of_not_steady {α : Type} (f : α → Int64) {items : List α}
    (unsteady : ¬ Steady (items.map f)) :
    ∃ cut : Cut α, cut.toList.Perm items ∧
      cut.reduce (fun run => satSum (run.map f)) satAdd ≠ satSum (cut.toList.map f) := by
  -- The values below zero are put into one run and all others into another.
  generalize upward : items.filter (fun x => decide (0 ≤ (f x).toInt)) = ups
  generalize downward : items.filter (fun x => !decide (0 ≤ (f x).toInt)) = downs
  have split : (ups ++ downs).Perm items := by
    rw [← upward, ← downward]
    exact List.filter_append_perm _ items
  have lossless : tally loss (ups.map f) = 0 := by
    apply tally_eq_zero
    intro v member
    obtain ⟨x, inside, rfl⟩ := List.mem_map.mp member
    rw [← upward, List.mem_filter, decide_eq_true_eq] at inside
    unfold loss
    omega
  have gainless : tally gain (downs.map f) = 0 := by
    apply tally_eq_zero
    intro v member
    obtain ⟨x, inside, rfl⟩ := List.mem_map.mp member
    rw [← downward, List.mem_filter, Bool.not_eq_true', decide_eq_false_iff_not] at inside
    unfold gain
    omega
  have raised := tally_perm gain (split.map f)
  have lowered := tally_perm loss (split.map f)
  simp only [List.map_append, tally_append, lossless, gainless] at raised lowered
  by_cases above : 0 < tally loss (items.map f) ∧ Int64.maxValue.toInt < tally gain (items.map f)
  · refine ⟨.join (.run downs) (.run ups), List.perm_append_comm.trans split, ?_⟩
    simp only [Cut.reduce, Cut.toList, List.map_append]
    apply satAdd_satSum_ne (.inr gainless) (.inl lossless)
    unfold pull
    omega
  · refine ⟨.join (.run ups) (.run downs), split, ?_⟩
    simp only [Cut.reduce, Cut.toList, List.map_append]
    apply satAdd_satSum_ne (.inl lossless) (.inr gainless)
    have under : ¬ (0 < tally gain (items.map f) → tally loss (items.map f) ≤ -Int64.minValue.toInt) :=
      fun below => unsteady ⟨by omega, below⟩
    unfold pull
    omega

theorem Steady.reduce_filter {α : Type} {f : α → Int64} (keep : α → Bool) {cut : Cut α}
    (steady : Steady (cut.toList.map f)) :
    cut.reduce (fun run => satSum ((run.filter keep).map f)) satAdd =
      satSum ((cut.toList.filter keep).map f) := by
  apply Cut.reduce_eq_of_parts (P := fun run => Steady (run.map f)) _ _ cut steady
  · intro xs ys whole
    rw [List.map_append] at whole
    exact whole.parts
  · intro xs ys whole
    have kept := whole.sublist ((List.filter_sublist (p := keep)).map f)
    rw [List.filter_append, List.map_append] at kept ⊢
    exact kept.satAdd_satSum

theorem steady_iff_cuts_agree {α : Type} (f : α → Int64) (items : List α) :
    Steady (items.map f) ↔ ∀ cut : Cut α, cut.toList.Perm items →
      cut.reduce (fun run => satSum (run.map f)) satAdd = satSum (cut.toList.map f) := by
  constructor
  · intro steady cut same
    have whole := Steady.reduce_filter (fun _ => true) (steady.perm (same.map f).symm)
    simpa only [List.filter_true] using whole
  · intro agree
    by_contra unsteady
    obtain ⟨cut, same, differ⟩ := exists_cut_of_not_steady f unsteady
    exact differ (agree cut same)

end Census
