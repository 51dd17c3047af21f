import Mathlib.Data.List.Induction
import Census.Proofs.Buckets
import Census.Proofs.Keys
import Census.Proofs.Saturation

set_option autoImplicit false

namespace Census

/-- What a bucket with these values shows: their sum as it stays within the words from one value to
the next, an end of them, or the greatest integer not above their mean; zero if there are none. -/
def figure (mode : Option FindMode) (values : List Int64) : Int64 :=
  match mode with
  | none => satSum values
  | some .max => values.max?.getD 0
  | some .min => values.min?.getD 0
  | some .avg => clamp (exactSum values / values.length)

theorem figure_nil (mode : Option FindMode) : figure mode [] = 0 := by
  rcases mode with _ | _ | _ | _ <;> rfl

section Ends

variable {values : List Int64}

theorem figure_max_iff (some_given : values ≠ []) (v : Int64) :
    figure (some .max) values = v ↔ v ∈ values ∧ ∀ w ∈ values, w ≤ v := by
  rw [← List.max?_eq_some_iff]
  obtain ⟨greatest, found⟩ := Option.ne_none_iff_exists'.mp (mt List.max?_eq_none_iff.mp some_given)
  simp [figure, found]

theorem figure_min_iff (some_given : values ≠ []) (v : Int64) :
    figure (some .min) values = v ↔ v ∈ values ∧ ∀ w ∈ values, v ≤ w := by
  rw [← List.min?_eq_some_iff]
  obtain ⟨least, found⟩ := Option.ne_none_iff_exists'.mp (mt List.min?_eq_none_iff.mp some_given)
  simp [figure, found]

end Ends

theorem addAll_sumCell (values : List Int64) :
    Cell.addAll (Cell.empty : SumCell) values = ⟨satSum values⟩ := by
  induction values using List.reverseRecOn with
  | nil => rfl
  | append_singleton values v ih =>
    rw [Cell.addAll_snoc, ih, satSum_snoc]
    rfl

theorem addAll_maxCell (values : List Int64) :
    Cell.addAll (Cell.empty : MaxCell) values = ⟨values.max?⟩ := by
  induction values using List.reverseRecOn with
  | nil => rfl
  | append_singleton values v ih =>
    rw [Cell.addAll_snoc, ih]
    cases values with
    | nil => rfl
    | cons w rest =>
      rw [List.cons_append, List.max?_cons', List.max?_cons', List.foldl_append]
      rfl

theorem addAll_minCell (values : List Int64) :
    Cell.addAll (Cell.empty : MinCell) values = ⟨values.min?⟩ := by
  induction values using List.reverseRecOn with
  | nil => rfl
  | append_singleton values v ih =>
    rw [Cell.addAll_snoc, ih]
    cases values with
    | nil => rfl
    | cons w rest =>
      rw [List.cons_append, List.min?_cons', List.min?_cons', List.foldl_append]
      rfl

theorem addAll_avgCell (values : List Int64) :
    Cell.addAll (Cell.empty : AvgCell) values = ⟨exactSum values, values.length⟩ := by
  induction values using List.reverseRecOn with
  | nil => rfl
  | append_singleton values v ih =>
    rw [Cell.addAll_snoc, ih, exactSum_append, List.length_append]
    simp [Cell.add, exactSum]

theorem toInt_figure_avg (values : List Int64) :
    (figure (some .avg) values).toInt = exactSum values / values.length := by
  have bounded := AvgCell.bounded_addAll values
  have mean := AvgCell.toInt_clamp_mean bounded
  rwa [AvgCell.mean_eq_of_between bounded, addAll_avgCell] at mean

theorem finish_sumCell (values : List Int64) :
    Cell.finish (Cell.addAll (Cell.empty : SumCell) values) = .ok (figure none values) := by
  rw [addAll_sumCell]
  rfl

theorem finish_maxCell (values : List Int64) :
    Cell.finish (Cell.addAll (Cell.empty : MaxCell) values) = .ok (figure (some .max) values) := by
  rw [addAll_maxCell]
  rfl

theorem finish_minCell (values : List Int64) :
    Cell.finish (Cell.addAll (Cell.empty : MinCell) values) = .ok (figure (some .min) values) := by
  rw [addAll_minCell]
  rfl

theorem finish_avgCell (values : List Int64) :
    Cell.finish (Cell.addAll (Cell.empty : AvgCell) values) = .ok (figure (some .avg) values) := by
  have bounded := AvgCell.bounded_addAll values
  have finished := AvgCell.finish_of_bounded bounded
  rw [AvgCell.mean_eq_of_between bounded] at finished
  rw [addAll_avgCell] at finished ⊢
  exact finished

theorem valuesIn_map {α : Type} (bucket : Nat) (place : α → Nat) (value : α → Int64)
    (items : List α) :
    valuesIn bucket (items.map fun x => (place x, value x)) =
      (items.filter (place · = bucket)).map value := by
  simp [valuesIn, List.filter_map, Function.comp_def]

namespace Bucketing

variable {σ : Type} [Cell σ]

theorem accumulate_run_of_finish {mode : Option FindMode}
    (finishes : ∀ values, Cell.finish (Cell.addAll (Cell.empty : σ) values) =
      .ok (figure mode values)) (buckets : Nat) (placed : List (Nat × Int64)) :
    accumulate σ buckets (.run placed) =
      .ok ((List.range buckets).map fun bucket => figure mode (valuesIn bucket placed)) := by
  simp only [accumulate_run, finishes]
  exact List.mapM_pure

theorem reduceBuckets_run (mode : Option FindMode) (buckets : Nat) (placed : List (Nat × Int64)) :
    reduceBuckets mode buckets (.run placed) =
      .ok ((List.range buckets).map fun bucket => figure mode (valuesIn bucket placed)) := by
  rcases mode with _ | _ | _ | _
  case none => exact accumulate_run_of_finish finish_sumCell buckets placed
  case some.min => exact accumulate_run_of_finish finish_minCell buckets placed
  case some.max => exact accumulate_run_of_finish finish_maxCell buckets placed
  case some.avg => exact accumulate_run_of_finish finish_avgCell buckets placed

/-- Every bucket shows what it would if its records stood next to each other. -/
def ReducesInOrder (pieces : Cut Record) (reduction : Reduction) : Prop :=
  ∀ buckets (place : Record → Nat),
    reduceBuckets reduction.mode buckets (pieces.map fun r => (place r, reduction.value r)) =
      .ok ((List.range buckets).map fun bucket =>
        figure reduction.mode ((pieces.toList.filter (place · = bucket)).map reduction.value))

theorem reducesInOrder_run (records : List Record) (reduction : Reduction) :
    ReducesInOrder (.run records) reduction := by
  intro buckets place
  simp only [Cut.map, reduceBuckets_run, valuesIn_map, Cut.toList]

theorem reducesInOrder_of_find (pieces : Cut Record) {reduction : Reduction} {mode : FindMode}
    (finds : reduction.mode = some mode) : ReducesInOrder pieces reduction := by
  intro buckets place
  obtain ⟨values, cut, whole⟩ := reduceBuckets_find_over_cut mode buckets
    (pieces.map fun r => (place r, reduction.value r))
  rw [Cut.toList_map, reduceBuckets_run] at whole
  simp only [valuesIn_map] at whole
  rw [finds, cut, whole]

variable {pieces : Cut Record} {reduction : Reduction}

theorem rangedOver_figures (inOrder : ReducesInOrder pieces reduction)
    (some_given : pieces.toList ≠ []) (dimension : Record → Int64) (layout : RangedLayout) :
    rangedOver pieces dimension reduction layout =
      .ok (.ofEntries (layout.labels.zip ((List.range layout.size).map fun bucket =>
        figure reduction.mode ((pieces.toList.filter fun r =>
          layout.bucketOf (dimension r) = bucket).map reduction.value)))) :=
  rangedOver_of_values some_given (inOrder layout.size fun r => layout.bucketOf (dimension r))

def Discrete.under (keys : List String) (label : Record → Option String) (reduction : Reduction)
    (records : List Record) : Discrete where
  histogram := .ofEntries (keys.map fun key =>
    (key, figure reduction.mode ((records.filter fun r => label r = some key).map reduction.value)))
  unmappedRecords := records.countP fun r => (label r).all (· ∉ keys)
  unmappedValue :=
    figure reduction.mode ((records.filter fun r => (label r).all (· ∉ keys)).map reduction.value)

theorem keys_zip_shares (table : KeyTable) (consistent : table.Consistent)
    (label : Record → Option String) (share : List Record → Int64) (records : List Record) :
    table.keys.toList.zip ((List.range table.cardinality).map fun bucket =>
        share (records.filter fun r => table.idOf (label r) = bucket)) =
      table.keys.toList.map fun key => (key, share (records.filter fun r => label r = some key)) := by
  apply List.ext_getElem
  · simp [KeyTable.cardinality]
  · intro i inside _
    have bound : i < table.keys.size := by simpa [KeyTable.cardinality] using inside
    simp only [List.getElem_zip, List.getElem_map, List.getElem_range, Array.getElem_toList,
      KeyTable.idOf_eq_iff consistent bound]

theorem getLast?_shares (table : KeyTable) (share : Nat → Int64) :
    ((List.range table.cardinality).map share).getLast? = some (share table.sentinel) := by
  rw [KeyTable.cardinality, List.range_succ, List.map_append]
  simp [KeyTable.sentinel]

theorem discreteOver_under (inOrder : ReducesInOrder pieces reduction)
    (label : Record → Option String) (order : KeyOrder) :
    discreteOver pieces label reduction order =
      .ok (.under (KeyTable.discover (pieces.toList.map label) order).keys.toList label reduction
        pieces.toList) := by
  generalize discovered : KeyTable.discover (pieces.toList.map label) order = table
  by_cases none_given : pieces.toList = []
  · have keyless : table.keys.toList = [] := by
      apply List.eq_nil_iff_forall_not_mem.mpr
      intro key member
      rw [← discovered, KeyTable.mem_discover, none_given] at member
      exact absurd member.1 (by simp)
    simp only [discreteOver, none_given, keyless, Discrete.under, List.filter_nil, List.map_nil,
      figure_nil]
    rfl
  · have consistent : table.Consistent := discovered ▸ KeyTable.discover_consistent _ order
    have left_out (r : Record) :
        decide (table.idOf (label r) = table.sentinel) = (label r).all (· ∉ table.keys.toList) := by
      rw [Bool.eq_iff_iff, decide_eq_true_eq, KeyTable.idOf_eq_sentinel_iff consistent]
      cases label r with
      | none => simp
      | some l => simp only [ne_eq, Option.some.injEq, List.forall_mem_ne, Option.all_some,
          decide_eq_true_eq]
    rw [discreteOver_of_values none_given discovered
      (inOrder table.cardinality fun r => table.idOf (label r))]
    rw [keys_zip_shares table consistent label
      (fun records => figure reduction.mode (records.map reduction.value)), getLast?_shares]
    simp only [Discrete.under, left_out, Option.getD_some]

end Bucketing

end Census
