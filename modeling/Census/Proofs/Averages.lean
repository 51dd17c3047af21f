import Census.Proofs.Reordering

set_option autoImplicit false

namespace Census

namespace Cell

variable {σ : Type} [Cell σ] [LawfulCell σ]

theorem foldl_merge_shards (shards : List (List Int64)) :
    (shards.map (addAll (empty : σ))).foldl merge empty = addAll empty shards.flatten := by
  induction shards using List.reverseRecOn with
  | nil => rfl
  | append_singleton shards last ih =>
    rw [List.map_append, List.foldl_append, ih, List.flatten_append, List.flatten_singleton]
    exact merge_addAll shards.flatten last

theorem ofShards_of_perm {mode : FindMode}
    (finishes : ∀ values, finish (addAll (empty : σ) values) = .ok (figure (some mode) values))
    {order shards : List (List Int64)} (same : order.Perm shards) :
    ofShards σ order = .ok (figure (some mode) shards.flatten) := by
  have figures : figure (some mode) order.flatten = figure (some mode) shards.flatten :=
    figure_perm (fun sums => nomatch sums) same.flatten
  rw [ofShards, foldl_merge_shards, finishes, figures]

end Cell

section Floors

variable {values : List Int64}

theorem figure_avg_iff (some_given : values ≠ []) (q : Int) :
    (q * values.length ≤ exactSum values ∧ exactSum values < (q + 1) * values.length) ↔
      (figure (some .avg) values).toInt = q := by
  have positive : (0 : Int) < values.length := by
    have length := List.length_pos_iff.mpr some_given
    omega
  rw [toInt_figure_avg, Int.ediv_eq_iff_of_pos positive, Int.add_mul, Int.one_mul]

theorem figure_avg_between (some_given : values ≠ []) {low high : Int64}
    (each : ∀ v ∈ values, low ≤ v ∧ v ≤ high) :
    low ≤ figure (some .avg) values ∧ figure (some .avg) values ≤ high := by
  have between : (AvgCell.mk (exactSum values) values.length).Between low.toInt high.toInt := by
    rw [← addAll_avgCell]
    exact AvgCell.between_addAll fun v member =>
      (each v member).imp Int64.le_iff_toInt_le.mp Int64.le_iff_toInt_le.mp
  have inside := AvgCell.mean_between between (List.length_pos_iff.mpr some_given)
  rw [AvgCell.mean_eq_of_between between, ← toInt_figure_avg] at inside
  exact inside.imp Int64.le_iff_toInt_le.mpr Int64.le_iff_toInt_le.mpr

theorem figure_min_le_avg_le_max (values : List Int64) :
    figure (some .min) values ≤ figure (some .avg) values ∧
      figure (some .avg) values ≤ figure (some .max) values := by
  by_cases none_given : values = []
  next =>
    subst none_given
    exact ⟨Int64.le_refl _, Int64.le_refl _⟩
  next =>
    have least := ((figure_min_iff none_given _).mp rfl).2
    have greatest := ((figure_max_iff none_given _).mp rfl).2
    exact figure_avg_between none_given fun v member => ⟨least v member, greatest v member⟩

end Floors

namespace Cell

theorem averages_round_down (shards : List (List Int64)) :
    ∃ low average high : Int64,
      (∀ order, order.Perm shards → ofShards MinCell order = .ok low ∧
        ofShards AvgCell order = .ok average ∧ ofShards MaxCell order = .ok high) ∧
      (shards.flatten = [] → average = 0) ∧
      (shards.flatten ≠ [] → ∀ q : Int,
        (q * shards.flatten.length ≤ exactSum shards.flatten ∧
          exactSum shards.flatten < (q + 1) * shards.flatten.length) ↔ average.toInt = q) ∧
      low ≤ average ∧ average ≤ high := by
  refine ⟨_, _, _, fun order same => ⟨ofShards_of_perm finish_minCell same,
    ofShards_of_perm finish_avgCell same, ofShards_of_perm finish_maxCell same⟩, ?_,
    figure_avg_iff, figure_min_le_avg_le_max shards.flatten⟩
  intro none_given
  rw [none_given, figure_nil]

/-- The sum is far below the words and no multiple of the number of values. -/
theorem averages_round_down_below_the_words :
    let shards : List (List Int64) := [[], [Int64.minValue], [-1, Int64.minValue]]
    [[-1, Int64.minValue], [], [Int64.minValue]].Perm shards ∧ shards.flatten ≠ [] ∧
      ofShards AvgCell [[-1, Int64.minValue], [], [Int64.minValue]] =
        .ok (-6148914691236517206) := by
  intro shards
  have same : [[-1, Int64.minValue], [], [Int64.minValue]].Perm shards := by decide
  have some_given : shards.flatten ≠ [] := by decide
  have ⟨_, average, _, merged, _, rounded, _⟩ := averages_round_down shards
  have exact_average : average.toInt = -6148914691236517206 :=
    (rounded some_given (-6148914691236517206)).mp (by decide)
  have word : average = -6148914691236517206 := Int64.toInt_inj.mp (exact_average.trans (by decide))
  exact ⟨same, some_given, word ▸ (merged _ same).2.1⟩

end Cell

end Census
