import Mathlib.Data.List.Perm.Basic
import Census.Proofs.Entries
import Census.Proofs.Figures
import Census.Proofs.Ranges

set_option autoImplicit false

namespace Census

theorem flatMap_places_perm {α : Type} (place : α → Nat) (n : Nat) (items : List α) :
    ((List.range n).flatMap fun k => items.filter (place · = k)).Perm
      (items.filter (place · < n)) := by
  induction n with
  | zero => simp
  | succ n ih =>
    have parted := List.filter_append_perm (fun x => decide (place x < n))
      (items.filter (place · < n + 1))
    have below : (items.filter (place · < n + 1)).filter (fun x => decide (place x < n)) =
        items.filter (place · < n) := by
      rw [List.filter_filter]
      refine List.filter_congr fun x _ => Bool.eq_iff_iff.mpr ?_
      simp only [Bool.and_eq_true, decide_eq_true_eq]
      omega
    have here : (items.filter (place · < n + 1)).filter (fun x => !decide (place x < n)) =
        items.filter (place · = n) := by
      rw [List.filter_filter]
      refine List.filter_congr fun x _ => Bool.eq_iff_iff.mpr ?_
      simp only [Bool.and_eq_true, Bool.not_eq_true', decide_eq_true_eq, decide_eq_false_iff_not]
      omega
    rw [below, here] at parted
    simpa [List.range_succ] using (ih.append_right _).trans parted

/-- Above the threshold before a place and not above its own, where there are such thresholds. -/
def liesIn (thresholds : List Int64) (v : Int64) : Nat → Bool
  | 0 => thresholds[0]?.all (v ≤ ·)
  | k + 1 => thresholds[k]?.all (· < v) && thresholds[k + 1]?.all (v ≤ ·)

namespace RangedLayout

theorem of_eq_ok {thresholds : List Int64} {labels : List String} {layout : RangedLayout}
    (accepted : of thresholds labels = .ok layout) :
    layout.thresholds = thresholds ∧ layout.labels = labels := by
  unfold of at accepted
  split at accepted
  next =>
    split at accepted
    next => cases accepted
    next =>
      cases accepted
      exact ⟨rfl, rfl⟩
  next => cases accepted

theorem liesIn_iff (layout : RangedLayout) (v : Int64) {k : Nat} (inside : k < layout.size) :
    liesIn layout.thresholds v k = true ↔ layout.bucketOf v = k := by
  rw [layout.bucketOf_eq_iff v inside]
  cases k <;> simp [liesIn, limits, Relation.holds, or_imp, forall_and, Option.all_eq_true]

theorem exists_unique_liesIn (layout : RangedLayout) (v : Int64) :
    ∃! k, k < layout.size ∧ liesIn layout.thresholds v k = true := by
  refine ⟨layout.bucketOf v, ⟨layout.bucketOf_lt_size v, ?_⟩, fun k lies => ?_⟩
  next => exact (layout.liesIn_iff v (layout.bucketOf_lt_size v)).mpr rfl
  next => exact ((layout.liesIn_iff v lies.1).mp lies.2).symm

variable (layout : RangedLayout) (dimension : Record → Int64) (records : List Record)

theorem filter_bucketOf {k : Nat} (inside : k < layout.size) :
    records.filter (fun r => layout.bucketOf (dimension r) = k) =
      records.filter fun r => liesIn layout.thresholds (dimension r) k :=
  List.filter_congr fun r _ =>
    Bool.eq_iff_iff.mpr (decide_eq_true_iff.trans (layout.liesIn_iff (dimension r) inside).symm)

theorem intervals_perm :
    ((List.range layout.size).flatMap fun k =>
      records.filter fun r => liesIn layout.thresholds (dimension r) k).Perm records := by
  have whole := flatMap_places_perm (fun r => layout.bucketOf (dimension r)) layout.size records
  rw [List.filter_eq_self.mpr fun r _ => decide_eq_true (layout.bucketOf_lt_size _)] at whole
  have same := List.flatMap_congr fun k (inside : k ∈ List.range layout.size) =>
    layout.filter_bucketOf dimension records (List.mem_range.mp inside)
  rwa [same] at whole

end RangedLayout

namespace Bucketing

structure ShowsRanges (h : Histogram Int64) (thresholds : List Int64) (labels : List String)
    (dimension : Record → Int64) (reduction : Reduction) (records : List Record) : Prop where
  size : h.size = thresholds.length + 1
  labels : h.labels = labels
  values : ∀ k ≤ thresholds.length, h.values[k]? = some (figure reduction.mode
    ((records.filter fun r => liesIn thresholds (dimension r) k).map reduction.value))
  empty : ∀ k ≤ thresholds.length, (∀ r ∈ records, liesIn thresholds (dimension r) k = false) →
    h.values[k]? = some 0
  one : ∀ r ∈ records, ∃! k, k ≤ thresholds.length ∧ liesIn thresholds (dimension r) k = true
  parted : ((List.range (thresholds.length + 1)).flatMap fun k =>
    records.filter fun r => liesIn thresholds (dimension r) k).Perm records

theorem rangedOver_showsRanges {pieces : Cut Record} {reduction : Reduction}
    (inOrder : ReducesInOrder pieces reduction) (some_given : pieces.toList ≠ [])
    (dimension : Record → Int64) (layout : RangedLayout) :
    ∃ h, rangedOver pieces dimension reduction layout = .ok h ∧
      ShowsRanges h layout.thresholds layout.labels dimension reduction pieces.toList := by
  have size : layout.size = layout.thresholds.length + 1 := layout.labelled
  let share (bucket : Nat) := figure reduction.mode ((pieces.toList.filter fun r =>
    layout.bucketOf (dimension r) = bucket).map reduction.value)
  have shown (k : Nat) (within : k ≤ layout.thresholds.length) :
      (Histogram.ofEntries (layout.labels.zip ((List.range layout.size).map share))).values[k]? =
        some (figure reduction.mode ((pieces.toList.filter fun r =>
          liesIn layout.thresholds (dimension r) k).map reduction.value)) := by
    have inside : k < layout.size := by omega
    rw [Histogram.values_ofEntries, List.map_snd_zip (by simp [RangedLayout.size]),
      ← layout.filter_bucketOf dimension pieces.toList inside]
    simp [share, inside]
  refine ⟨_, rangedOver_figures inOrder some_given dimension layout, ?_⟩
  exact {
    size := by simp [Histogram.size, Histogram.ofEntries, RangedLayout.size, layout.labelled]
    labels := List.map_fst_zip (by simp [RangedLayout.size])
    values := shown
    empty := fun k within nobody => by
      rw [shown k within, List.filter_eq_nil_iff.mpr (by simpa using nobody), List.map_nil,
        figure_nil]
    one := fun r _ => by
      simpa only [size, Nat.lt_succ_iff] using layout.exists_unique_liesIn (dimension r)
    parted := size ▸ layout.intervals_perm dimension pieces.toList }

theorem ranged_reduces_intervals (fanout : Fanout) (s : Subset) (dimension : Record → Int64)
    (reduction : Reduction) {thresholds : List Int64} {labels : List String}
    {layout : RangedLayout} (accepted : RangedLayout.of thresholds labels = .ok layout)
    (sequential : fanout.spreads s.size = false) :
    (s.records = [] → ranged fanout s dimension reduction layout = .ok .empty) ∧
      (s.records ≠ [] → ∃ h, ranged fanout s dimension reduction layout = .ok h ∧
        ShowsRanges h thresholds labels dimension reduction s.records) := by
  have ⟨own_thresholds, own_labels⟩ := RangedLayout.of_eq_ok accepted
  have whole : fanout.halves s.records = .run s.records := Fanout.halves_of_sequential sequential
  subst own_thresholds own_labels
  rw [ranged, whole]
  constructor
  next =>
    intro none_given
    exact if_pos (by simpa [Cut.toList] using none_given)
  next =>
    intro some_given
    exact rangedOver_showsRanges (reducesInOrder_run s.records reduction) some_given dimension
      layout

def ends : Subset where
  records :=
    [.file 1 "/a" (.of Int64.maxValue 1 1), .file 2 "/b" (.of 0 1 1),
      .file 3 "/c" (.of Int64.minValue 1 1)]

theorem ranged_reduces_intervals_of_ends :
    ∃ layout, RangedLayout.of [0, 10] ["low", "middle", "high"] = .ok layout ∧
      Fanout.sequential.spreads ends.size = false ∧
      ∃ h, ranged .sequential ends Record.fileSize ⟨some .avg, Record.fileSize⟩ layout = .ok h ∧
        h.labels = ["low", "middle", "high"] ∧
        h.values[0]? = some (-4611686018427387904 : Int64) ∧ h.values[1]? = some 0 ∧
        h.values[2]? = some Int64.maxValue := by
  have accepted : RangedLayout.of [0, 10] ["low", "middle", "high"] =
      .ok ⟨[0, 10], ["low", "middle", "high"], rfl, rfl⟩ := rfl
  have sequential : Fanout.sequential.spreads ends.size = false := by decide
  have ⟨h, found, shows⟩ := (ranged_reduces_intervals .sequential ends Record.fileSize
    ⟨some .avg, Record.fileSize⟩ accepted sequential).2 (by decide)
  refine ⟨_, accepted, sequential, h, found, shows.labels, ?_, ?_, ?_⟩
  next => exact (shows.values 0 (by decide)).trans (by decide)
  next => exact shows.empty 1 (by decide) (by decide)
  next => exact (shows.values 2 (by decide)).trans (by decide)

end Bucketing

end Census
