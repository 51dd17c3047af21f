import Census.Proofs.Figures
import Census.Proofs.Steadiness

set_option autoImplicit false

namespace Census

namespace Bucketing

theorem reduce_fill_sum (buckets : Nat) (placed : Cut (Nat × Int64)) :
    placed.reduce (Shard.fill buckets) Shard.merge =
      (List.range buckets).map fun bucket =>
        SumCell.mk (placed.reduce (fun run => satSum (valuesIn bucket run)) satAdd) := by
  induction placed with
  | run placed => simp only [Cut.reduce, Shard.fill_eq_cells, Shard.cells, addAll_sumCell]
  | join left right hl hr =>
    rw [Cut.reduce, hl, hr, Shard.merge, List.zipWith_map, List.zipWith_self]
    rfl

theorem accumulate_sum (buckets : Nat) (placed : Cut (Nat × Int64)) :
    accumulate SumCell buckets placed =
      .ok ((List.range buckets).map fun bucket =>
        placed.reduce (fun run => satSum (valuesIn bucket run)) satAdd) := by
  rw [accumulate, reduce_fill_sum]
  induction List.range buckets with
  | nil => rfl
  | cons bucket rest ih =>
    rw [List.map_cons, List.mapM_cons, ih]
    rfl

theorem reduceBuckets_sum (pieces : Cut Record) (f : Record → Int64) (buckets : Nat)
    (place : Record → Nat) :
    reduceBuckets none buckets (pieces.map fun r => (place r, f r)) =
      .ok ((List.range buckets).map fun bucket =>
        pieces.reduce (fun rs => satSum ((rs.filter (place · = bucket)).map f)) satAdd) := by
  simp only [reduceBuckets, accumulate_sum, Cut.reduce_map, valuesIn_map]

theorem reduceBuckets_succeeds (mode : Option FindMode) (buckets : Nat)
    (placed : Cut (Nat × Int64)) :
    ∃ values, reduceBuckets mode buckets placed = .ok values ∧ values.length = buckets := by
  cases mode with
  | none => exact ⟨_, accumulate_sum buckets placed, by simp⟩
  | some mode =>
    obtain ⟨values, reduced, -⟩ := reduceBuckets_find_over_cut mode buckets placed
    exact ⟨values, reduced, length_of_reduceBuckets reduced⟩

def SumsInOrder (pieces : Cut Record) (f : Record → Int64) : Prop :=
  ∀ buckets (place : Record → Nat),
    reduceBuckets none buckets (pieces.map fun r => (place r, f r)) =
      .ok ((List.range buckets).map fun bucket =>
        satSum ((pieces.toList.filter (place · = bucket)).map f))

theorem sumsInOrder_run (records : List Record) (f : Record → Int64) :
    SumsInOrder (.run records) f :=
  reduceBuckets_sum (.run records) f

theorem sumsInOrder_of_steady {pieces : Cut Record} {f : Record → Int64}
    (steady : Steady (pieces.toList.map f)) : SumsInOrder pieces f := by
  intro buckets place
  simp only [reduceBuckets_sum, steady.reduce_filter]

theorem sumsInOrder_of_nonneg {pieces : Cut Record} {f : Record → Int64}
    (nonneg : ∀ r ∈ pieces.toList, 0 ≤ (f r).toInt) : SumsInOrder pieces f :=
  sumsInOrder_of_steady (.of_nonneg (nonNeg_map nonneg))

theorem SumsInOrder.reduces {pieces : Cut Record} {f : Record → Int64}
    (inOrder : SumsInOrder pieces f) : ReducesInOrder pieces (.sum f) :=
  inOrder

theorem reducesInOrder_of_nonneg {pieces : Cut Record} {reduction : Reduction}
    (nonneg : reduction.mode = none → ∀ r ∈ pieces.toList, 0 ≤ (reduction.value r).toInt) :
    ReducesInOrder pieces reduction := by
  obtain ⟨mode, f⟩ := reduction
  cases mode with
  | none => exact (sumsInOrder_of_nonneg (nonneg rfl)).reduces
  | some mode => exact reducesInOrder_of_find pieces rfl

theorem rangedOver_sum {pieces : Cut Record} {f : Record → Int64} (inOrder : SumsInOrder pieces f)
    (some_given : pieces.toList ≠ []) (dimension : Record → Int64) (layout : RangedLayout) :
    rangedOver pieces dimension (.sum f) layout =
      .ok (.ofEntries (layout.labels.zip ((List.range layout.size).map fun bucket =>
        satSum ((pieces.toList.filter fun r => layout.bucketOf (dimension r) = bucket).map f)))) :=
  rangedOver_figures inOrder.reduces some_given dimension layout

theorem discreteOver_sum {pieces : Cut Record} {f : Record → Int64}
    (inOrder : SumsInOrder pieces f) (label : Record → Option String) (order : KeyOrder) :
    ∃ d, discreteOver pieces label (.sum f) order = .ok d ∧
      d.histogram = .ofEntries (
        (KeyTable.discover (pieces.toList.map label) order).keys.toList.map fun key =>
          (key, satSum ((pieces.toList.filter fun r => label r = some key).map f))) :=
  ⟨_, discreteOver_under inOrder.reduces label order, rfl⟩

end Bucketing

namespace Aggregation

theorem map_count (records : List Record) :
    records.map count.contribution = List.replicate records.length 1 := by
  simp [contribution, List.map_const']

theorem sumOver_run (a : Aggregation) (records : List Record) :
    a.sumOver (.run records) = satSum (records.map a.contribution) := by
  cases a with
  | count =>
    rw [map_count, satSum_ones]
    rfl
  | _ => rfl

theorem sumOver_of_steady {a : Aggregation} {pieces : Cut Record}
    (steady : Steady (pieces.toList.map a.contribution)) :
    a.sumOver pieces = satSum (pieces.toList.map a.contribution) := by
  cases a with
  | count => exact sumOver_run .count pieces.toList
  | _ => exact (steady_iff_cuts_agree _ _).mp steady pieces (.refl _)

theorem sumOver_of_nonneg {a : Aggregation} {pieces : Cut Record}
    (nonneg : ∀ r ∈ pieces.toList, 0 ≤ (a.contribution r).toInt) :
    a.sumOver pieces = satSum (pieces.toList.map a.contribution) :=
  sumOver_of_steady (.of_nonneg (nonNeg_map nonneg))

end Aggregation

end Census
