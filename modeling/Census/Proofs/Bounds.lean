import Census.Proofs.Intervals
import Census.Proofs.Keys
import Census.Proofs.Sums

set_option autoImplicit false

namespace Census

def narrow (below : Nat → Bool) (base size : Nat) : Nat :=
  if 1 < size then
    narrow below (if below (base + size / 2) then base + size / 2 else base) (size - size / 2)
  else base
termination_by size

/-- How many places are below, found by halving, where those that are come before those that are
not. -/
def partitionPoint (below : Nat → Bool) : Nat → Nat
  | 0 => 0
  | length + 1 =>
    let base := narrow below 0 (length + 1)
    if below base then base + 1 else base

section Search

variable {below : Nat → Bool} {base size length k : Nat}

theorem narrow_close (parted : ∀ i < length, below i = true ↔ i < k) (some_left : 0 < size)
    (inside : base + size ≤ length) (low : base ≤ k) (high : k ≤ base + size) :
    narrow below base size < length ∧ narrow below base size ≤ k ∧
      k ≤ narrow below base size + 1 := by
  fun_induction narrow below base size with
  | case1 base size more ih =>
    have probe := parted (base + size / 2) (by omega)
    -- The probe is below just if the answer is behind it, so both stay on their sides.
    by_cases behind : base + size / 2 < k
    · rw [dif_pos (probe.mpr behind)] at ih
      rw [if_pos (probe.mpr behind)]
      exact ih (by omega) (by omega) (by omega) (by omega)
    · rw [dif_neg (mt probe.mp behind)] at ih
      rw [if_neg (mt probe.mp behind)]
      exact ih (by omega) (by omega) low (by omega)
  | case2 base size last => omega

theorem partitionPoint_eq (parted : ∀ i < length, below i = true ↔ i < k) (within : k ≤ length) :
    partitionPoint below length = k := by
  cases length with
  | zero => exact (Nat.le_zero.mp within).symm
  | succ length =>
    -- One place is left, and whether it is below is all there is to know.
    obtain ⟨inside, low, high⟩ := narrow_close parted (Nat.succ_pos length)
      (Nat.le_of_eq (Nat.zero_add _)) (Nat.zero_le k) (by omega)
    have last := parted _ inside
    simp only [partitionPoint]
    split
    next behind => exact Nat.le_antisymm (last.mp behind) high
    next before => exact Nat.le_antisymm low (Nat.not_lt.mp (mt last.mpr before))

end Search

namespace RangedLayout

def search (layout : RangedLayout) (value : Int64) : Nat :=
  partitionPoint (fun i => layout.thresholds[i]?.any (· < value)) layout.thresholds.length

theorem bucketOf_le_length (layout : RangedLayout) (v : Int64) :
    layout.bucketOf v ≤ layout.thresholds.length :=
  (List.takeWhile_sublist _).length_le

theorem search_eq_bucketOf (layout : RangedLayout) (v : Int64) :
    layout.search v = layout.bucketOf v := by
  refine partitionPoint_eq (fun i inside => ?_) (layout.bucketOf_le_length v)
  have passed := layout.bucketOf_lt_iff v inside
  rw [List.getElem?_eq_getElem inside, Option.any_some, decide_eq_true_eq, ← Int64.not_le, ← passed]
  omega

theorem liesIn_iff_eq_bucketOf (layout : RangedLayout) (v : Int64) (k : Nat) :
    (k < layout.size ∧ liesIn layout.thresholds v k = true) ↔ k = layout.bucketOf v := by
  constructor
  · rintro ⟨inside, lies⟩
    exact ((layout.liesIn_iff v inside).mp lies).symm
  · rintro rfl
    have inside := layout.bucketOf_lt_size v
    exact ⟨inside, (layout.liesIn_iff v inside).mpr rfl⟩

theorem bucketOf_mono (layout : RangedLayout) {v w : Int64} (le : v ≤ w) :
    layout.bucketOf v ≤ layout.bucketOf w := by
  by_contra above
  have inside : layout.bucketOf w < layout.thresholds.length :=
    Nat.lt_of_lt_of_le (Nat.not_le.mp above) (layout.bucketOf_le_length v)
  have within := (layout.bucketOf_lt_iff w inside).mp (Nat.lt_succ_self _)
  have before := (layout.bucketOf_lt_iff v inside).mpr (Int64.le_trans le within)
  omega

end RangedLayout

theorem KeyTable.idOf_lt_cardinality {table : KeyTable} (consistent : table.Consistent)
    (label : Option String) : table.idOf label < table.cardinality := by
  unfold idOf sentinel cardinality
  cases found : label.bind (table.ids[·]?) with
  | none => exact Nat.lt_succ_self _
  | some i =>
    obtain ⟨l, -, numbered⟩ := Option.bind_eq_some_iff.mp found
    have here := (consistent.numbered l i).mp numbered
    exact Nat.lt_succ_of_lt (Array.getElem?_eq_some_iff.mp here).1

namespace Shard

variable {σ : Type} [Cell σ]

theorem length_fill (buckets : Nat) (placed : List (Nat × Int64)) :
    (fill buckets placed : Shard σ).length = buckets :=
  length_reduce_fill buckets (.run placed)

structure MergesWhole (a b : Shard σ) : Prop where
  same : a.length = b.length
  length : (merge a b).length = a.length
  cells : ∀ (i : Nat) (x y : σ), a[i]? = some x → b[i]? = some y →
    (merge a b : List σ)[i]? = some (Cell.merge x y)

theorem mergesWhole_of_length {a b : Shard σ} (same : a.length = b.length) : MergesWhole a b where
  same := same
  length := by simp [merge, same]
  cells i x y left right := by simp [merge, List.getElem?_zipWith, left, right]

end Shard

/-- Each value that comes finds a cell at its place in the shard that is there by then, and shards
are merged whole. -/
def InBounds (σ : Type) [Cell σ] (buckets : Nat) : Cut (Nat × Int64) → Prop
  | .run placed => ∀ before next after, placed = before ++ next :: after →
    next.1 < (Shard.fill buckets before : Shard σ).length
  | .join left right => InBounds σ buckets left ∧ InBounds σ buckets right ∧
    Shard.MergesWhole (left.reduce (Shard.fill (σ := σ) buckets) Shard.merge)
      (right.reduce (Shard.fill buckets) Shard.merge)

theorem inBounds_iff {σ : Type} [Cell σ] {buckets : Nat} {placed : Cut (Nat × Int64)} :
    InBounds σ buckets placed ↔ ∀ next ∈ placed.toList, next.1 < buckets := by
  induction placed with
  | run placed =>
    -- Filling never changes how many cells there are, so each value meets as many as the first.
    simp only [InBounds, Shard.length_fill, Cut.toList]
    constructor
    · intro each next member
      obtain ⟨before, after, split⟩ := List.append_of_mem member
      exact each before next after split
    · rintro all before next after rfl
      exact all next (by simp)
  | join left right hl hr =>
    have whole : Shard.MergesWhole (left.reduce (Shard.fill (σ := σ) buckets) Shard.merge)
        (right.reduce (Shard.fill buckets) Shard.merge) :=
      Shard.mergesWhole_of_length (by rw [Shard.length_reduce_fill, Shard.length_reduce_fill])
    simp only [InBounds, hl, hr, whole, and_true, Cut.toList, List.forall_mem_append]

namespace Bucketing

structure Contained (mode : Option FindMode) (buckets : Nat) (placed : Cut (Nat × Int64))
    (values : List Int64) : Prop where
  reduced : reduceBuckets mode buckets placed = .ok values
  inBounds : ∀ (σ : Type) [Cell σ], InBounds σ buckets placed
  length : values.length = buckets

theorem exists_contained (mode : Option FindMode) {buckets : Nat} {placed : Cut (Nat × Int64)}
    (inside : ∀ next ∈ placed.toList, next.1 < buckets) :
    ∃ values, Contained mode buckets placed values := by
  obtain ⟨values, reduced, length⟩ := reduceBuckets_succeeds mode buckets placed
  exact ⟨values, reduced, fun _ _ => inBounds_iff.mpr inside, length⟩

variable {pieces : Cut Record} (some_given : pieces.toList ≠ []) (reduction : Reduction)

include some_given

theorem rangedOver_contained (dimension : Record → Int64) (layout : RangedLayout) :
    ∃ values, Contained reduction.mode layout.size
        (pieces.map fun r => (layout.bucketOf (dimension r), reduction.value r)) values ∧
      rangedOver pieces dimension reduction layout =
        .ok (.ofEntries (layout.labels.zip values)) := by
  have inside : ∀ next ∈ (pieces.map fun r =>
      (layout.bucketOf (dimension r), reduction.value r)).toList, next.1 < layout.size := by
    simpa using fun r _ => layout.bucketOf_lt_size (dimension r)
  obtain ⟨values, contained⟩ := exists_contained reduction.mode inside
  exact ⟨values, contained, rangedOver_of_values some_given contained.reduced⟩

theorem discreteOver_contained (label : Record → Option String) (order : KeyOrder) :
    let table := KeyTable.discover (pieces.toList.map label) order
    ∃ values, Contained reduction.mode table.cardinality
        (pieces.map fun r => (table.idOf (label r), reduction.value r)) values ∧
      discreteOver pieces label reduction order = .ok {
        histogram := .ofEntries (table.keys.toList.zip values)
        unmappedRecords := pieces.toList.countP fun r => table.idOf (label r) = table.sentinel
        unmappedValue := values.getLast?.getD 0 } := by
  intro table
  have consistent : table.Consistent := KeyTable.discover_consistent _ order
  have inside : ∀ next ∈ (pieces.map fun r => (table.idOf (label r), reduction.value r)).toList,
      next.1 < table.cardinality := by
    simpa using fun r _ => KeyTable.idOf_lt_cardinality consistent (label r)
  obtain ⟨values, contained⟩ := exists_contained reduction.mode inside
  exact ⟨values, contained, discreteOver_of_values some_given rfl contained.reduced⟩

end Bucketing

theorem buckets_in_range :
    (∀ (layout : RangedLayout) (v : Int64),
      (∀ k, (k < layout.size ∧ liesIn layout.thresholds v k = true) ↔ k = layout.bucketOf v) ∧
      layout.search v = layout.bucketOf v ∧ layout.bucketOf v < layout.size ∧
      ∀ w, v ≤ w → layout.bucketOf v ≤ layout.bucketOf w) ∧
    (∀ keys label, (KeyTable.ofKeys keys).idOf label < (KeyTable.ofKeys keys).cardinality) ∧
    (∀ labels order label,
      (KeyTable.discover labels order).idOf label < (KeyTable.discover labels order).cardinality) ∧
    ∀ (pieces : Cut Record) (reduction : Reduction), pieces.toList ≠ [] →
      (∀ dimension layout, ∃ values, Bucketing.Contained reduction.mode layout.size
          (pieces.map fun r => (layout.bucketOf (dimension r), reduction.value r)) values ∧
        Bucketing.rangedOver pieces dimension reduction layout =
          .ok (.ofEntries (layout.labels.zip values))) ∧
      ∀ label order, ∃ values, Bucketing.Contained reduction.mode
          (KeyTable.discover (pieces.toList.map label) order).cardinality
          (pieces.map fun r =>
            ((KeyTable.discover (pieces.toList.map label) order).idOf (label r),
              reduction.value r)) values ∧
        (Bucketing.discreteOver pieces label reduction order).map (·.histogram) =
          .ok (.ofEntries
            ((KeyTable.discover (pieces.toList.map label) order).keys.toList.zip values)) := by
  refine ⟨fun layout v => ?_, fun keys label => ?_, fun labels order label => ?_,
    fun pieces reduction some_given => ⟨fun dimension layout => ?_, fun label order => ?_⟩⟩
  · exact ⟨layout.liesIn_iff_eq_bucketOf v, layout.search_eq_bucketOf v,
      layout.bucketOf_lt_size v, fun _ => layout.bucketOf_mono⟩
  · exact KeyTable.idOf_lt_cardinality (KeyTable.ofKeys_consistent keys) label
  · exact KeyTable.idOf_lt_cardinality (KeyTable.discover_consistent labels order) label
  · exact Bucketing.rangedOver_contained some_given reduction dimension layout
  · obtain ⟨values, contained, found⟩ :=
      Bucketing.discreteOver_contained some_given reduction label order
    exact ⟨values, contained, by rw [found]; rfl⟩

/-- Two runs, merged, with sizes at both ends of a layout and a record that no label is known of. -/
theorem buckets_in_range_of_merged_runs :
    let pieces : Cut Record := .join (.run [.file 1 "/a" (.of Int64.maxValue 1 1)])
      (.run [.file 2 "/b" (.of Int64.minValue 1 1), .directory 3 "/c" {}])
    let owner : Record → Option String := fun r => if r.isFile then some r.path else none
    let reduction : Reduction := .sum Record.fileSize
    pieces.toList ≠ [] ∧
      (pieces.map fun r => (RangedLayout.spaceSize.bucketOf r.fileSize, r.fileSize)).toList =
        [(12, Int64.maxValue), (0, Int64.minValue), (0, 0)] ∧
      InBounds SumCell 13
        (pieces.map fun r => (RangedLayout.spaceSize.bucketOf r.fileSize, r.fileSize)) ∧
      ∃ values : List Int64, values.length = 3 ∧
        (Bucketing.discreteOver pieces owner reduction .discovery).map (·.histogram) =
          .ok (.ofEntries (["/a", "/b"].zip values)) := by
  intro pieces owner reduction
  have some_given : pieces.toList ≠ [] := by simp [pieces, Cut.toList]
  obtain ⟨-, -, -, calls⟩ := buckets_in_range
  obtain ⟨ranged, discrete⟩ := calls pieces reduction some_given
  obtain ⟨_, contained, -⟩ := ranged Record.fileSize .spaceSize
  obtain ⟨values, labelled, found⟩ := discrete owner .discovery
  have keys : (KeyTable.discover (pieces.toList.map owner) .discovery).keys.toList =
      ["/a", "/b"] := by
    rw [KeyTable.keys_discover]
    decide
  have cardinality : (KeyTable.discover (pieces.toList.map owner) .discovery).cardinality = 3 := by
    rw [KeyTable.cardinality, ← Array.length_toList, keys]
    rfl
  refine ⟨some_given, by decide, contained.inBounds SumCell, values, ?_, keys ▸ found⟩
  exact labelled.length.trans cardinality

end Census
