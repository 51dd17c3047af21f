import Mathlib.Data.List.Basic
import Census.Proofs.Cells

set_option autoImplicit false

namespace Census

def valuesIn (bucket : Nat) (placed : List (Nat × Int64)) : List Int64 :=
  (placed.filter (·.1 = bucket)).map Prod.snd

theorem valuesIn_append (bucket : Nat) (xs ys : List (Nat × Int64)) :
    valuesIn bucket (xs ++ ys) = valuesIn bucket xs ++ valuesIn bucket ys := by
  simp [valuesIn]

namespace Shard

variable {σ : Type} [Cell σ]

def cells (buckets : Nat) (placed : List (Nat × Int64)) : Shard σ :=
  (List.range buckets).map fun bucket => Cell.addAll Cell.empty (valuesIn bucket placed)

theorem absorb_cells (buckets : Nat) (placed : List (Nat × Int64)) (last : Nat × Int64) :
    (cells buckets placed : Shard σ).absorb last = cells buckets (placed ++ [last]) := by
  obtain ⟨bucket, v⟩ := last
  -- A position past the last bucket takes nothing in, on either side.
  apply List.ext_getElem?
  intro i
  simp only [absorb, cells, List.getElem?_modify, List.getElem?_map, valuesIn_append]
  by_cases inside : i < buckets
  · by_cases here : bucket = i
    · simp [inside, here, valuesIn, Cell.addAll_snoc]
    · simp [inside, here, valuesIn]
  · simp [inside]

theorem fill_eq_cells (buckets : Nat) (placed : List (Nat × Int64)) :
    (fill buckets placed : Shard σ) = cells buckets placed := by
  induction placed using List.reverseRecOn with
  | nil => simp [fill, fresh, cells, valuesIn, Cell.addAll]
  | append_singleton placed last ih =>
    have step : (fill buckets (placed ++ [last]) : Shard σ) =
        (fill buckets placed).absorb last := by
      simp [fill, List.foldl_append]
    rw [step, ih, absorb_cells]

theorem merge_fill [LawfulCell σ] (buckets : Nat) (xs ys : List (Nat × Int64)) :
    merge (fill buckets xs) (fill buckets ys) = (fill buckets (xs ++ ys) : Shard σ) := by
  simp only [fill_eq_cells, merge, cells, List.zipWith_map, List.zipWith_self, Cell.merge_addAll,
    valuesIn_append]

theorem length_reduce_fill (buckets : Nat) (placed : Cut (Nat × Int64)) :
    (placed.reduce (fill (σ := σ) buckets) merge).length = buckets := by
  induction placed with
  | run placed => simp [Cut.reduce, fill_eq_cells, cells]
  | join left right hl hr => simp [Cut.reduce, merge, hl, hr]

end Shard

theorem mapM_of_forall_ok {α β ε : Type} {f : α → Except ε β} {xs : List α}
    (each : ∀ x ∈ xs, ∃ y, f x = .ok y) : ∃ ys, xs.mapM f = .ok ys := by
  induction xs with
  | nil => exact ⟨[], rfl⟩
  | cons x rest ih =>
    obtain ⟨y, one⟩ := each x (by simp)
    obtain ⟨ys, others⟩ := ih fun z member => each z (by simp [member])
    exact ⟨y :: ys, by simp [List.mapM_cons, one, others, bind, Except.bind, pure, Except.pure]⟩

theorem length_of_mapM_ok {α β ε : Type} {f : α → Except ε β} {xs : List α} {ys : List β}
    (mapped : xs.mapM f = .ok ys) : ys.length = xs.length := by
  induction xs generalizing ys with
  | nil =>
    obtain rfl := Except.ok.inj mapped
    rfl
  | cons x rest ih =>
    cases one : f x with
    | error e => simp [List.mapM_cons, one, bind, Except.bind] at mapped
    | ok y =>
      cases others : rest.mapM f with
      | error e => simp [List.mapM_cons, one, others, bind, Except.bind] at mapped
      | ok zs =>
        obtain rfl : y :: zs = ys := by
          simpa [List.mapM_cons, one, others, bind, Except.bind, pure, Except.pure] using mapped
        rw [List.length_cons, List.length_cons, ih others]

namespace Bucketing

variable {σ : Type} [Cell σ]

theorem accumulate_over_cut [LawfulCell σ] (buckets : Nat) (placed : Cut (Nat × Int64)) :
    accumulate σ buckets placed = accumulate σ buckets (.run placed.toList) := by
  simp only [accumulate, Cut.reduce_eq (Shard.merge_fill (σ := σ) buckets) placed]
  rfl

theorem accumulate_run (buckets : Nat) (placed : List (Nat × Int64)) :
    accumulate σ buckets (.run placed) =
      (List.range buckets).mapM fun bucket =>
        Cell.finish (Cell.addAll (Cell.empty : σ) (valuesIn bucket placed)) := by
  simp only [accumulate, Cut.reduce, Shard.fill_eq_cells, Shard.cells, List.mapM_map]
  rfl

theorem accumulate_succeeds [LawfulCell σ] (buckets : Nat) (placed : List (Nat × Int64)) :
    ∃ values, accumulate σ buckets (.run placed) = .ok values := by
  rw [accumulate_run]
  exact mapM_of_forall_ok fun bucket _ => LawfulCell.finishes (valuesIn bucket placed)

theorem reduceBuckets_find_over_cut (mode : FindMode) (buckets : Nat)
    (placed : Cut (Nat × Int64)) :
    ∃ values, reduceBuckets (some mode) buckets placed = .ok values ∧
      reduceBuckets (some mode) buckets (.run placed.toList) = .ok values := by
  cases mode with
  | min =>
    obtain ⟨values, found⟩ := accumulate_succeeds (σ := MinCell) buckets placed.toList
    exact ⟨values, (accumulate_over_cut buckets placed).trans found, found⟩
  | max =>
    obtain ⟨values, found⟩ := accumulate_succeeds (σ := MaxCell) buckets placed.toList
    exact ⟨values, (accumulate_over_cut buckets placed).trans found, found⟩
  | avg =>
    obtain ⟨values, found⟩ := accumulate_succeeds (σ := AvgCell) buckets placed.toList
    exact ⟨values, (accumulate_over_cut buckets placed).trans found, found⟩

theorem length_of_accumulate {buckets : Nat} {placed : Cut (Nat × Int64)}
    {values : List Int64} (reduced : accumulate σ buckets placed = .ok values) :
    values.length = buckets :=
  (length_of_mapM_ok reduced).trans (Shard.length_reduce_fill buckets placed)

theorem length_of_reduceBuckets {mode : Option FindMode} {buckets : Nat}
    {placed : Cut (Nat × Int64)} {values : List Int64}
    (reduced : reduceBuckets mode buckets placed = .ok values) : values.length = buckets := by
  unfold reduceBuckets at reduced
  split at reduced <;> exact length_of_accumulate reduced

theorem rangedOver_of_values {pieces : Cut Record} {dimension : Record → Int64}
    {reduction : Reduction} {layout : RangedLayout} {values : List Int64}
    (some_given : pieces.toList ≠ [])
    (reduced : reduceBuckets reduction.mode layout.size
      (pieces.map fun r => (layout.bucketOf (dimension r), reduction.value r)) = .ok values) :
    rangedOver pieces dimension reduction layout = .ok (.ofEntries (layout.labels.zip values)) := by
  rw [rangedOver, if_neg (by simpa using some_given)]
  simp only [reduced]
  rfl

theorem discreteOver_of_values {pieces : Cut Record} {label : Record → Option String}
    {reduction : Reduction} {order : KeyOrder} {table : KeyTable} {values : List Int64}
    (some_given : pieces.toList ≠ [])
    (discovered : KeyTable.discover (pieces.toList.map label) order = table)
    (reduced : reduceBuckets reduction.mode table.cardinality
      (pieces.map fun r => (table.idOf (label r), reduction.value r)) = .ok values) :
    discreteOver pieces label reduction order = .ok {
      histogram := .ofEntries (table.keys.toList.zip values)
      unmappedRecords := pieces.toList.countP fun r => table.idOf (label r) = table.sentinel
      unmappedValue := values.getLast?.getD 0 } := by
  rw [discreteOver, if_neg (by simpa using some_given)]
  simp only [discovered, Cut.map_map, Cut.toList_map, List.countP_map, Function.comp_def, reduced]
  rfl

end Bucketing

end Census
