import Mathlib.Data.Set.List
import Census.Proofs.LabelledAxes
import Census.Proofs.Numerals

set_option autoImplicit false

namespace Census

namespace Transforms

theorem getD_congr {transforms others : Transforms} {name : String}
    (same : others.lookup name = transforms.lookup name) (default : Record → Int64) :
    others.getD name default = transforms.getD name default := by
  rw [getD, getD, same]

end Transforms

namespace Reduction

variable {release : Release} {sum : String} {find : Option String}

theorem request_congr {transforms others : Transforms}
    (same : (find.map Text.trim).filter (· ≠ "") = none →
      others.lookup sum = transforms.lookup sum) :
    request release sum find others = request release sum find transforms := by
  unfold request
  cases asked : (find.map Text.trim).filter (· ≠ "") with
  | some text => rfl
  | none => simp only [Transforms.getD_congr (same asked)]

end Reduction

theorem KeyOrder.value?_decimal (n : Int64) : value? (Text.decimal n.toInt) = some n := by
  rw [value?, Text.int64_decimal]
  rfl

theorem exists_integers {labels : List String}
    (decimals : ∀ label ∈ labels, ∃ n : Int64, Text.decimal n.toInt = label) :
    ∃ integers : List Int64, integers.map (fun n => Text.decimal n.toInt) = labels := by
  have within : labels ∈ Set.range (List.map fun n : Int64 => Text.decimal n.toInt) := by
    rw [Set.range_list_map]
    exact decimals
  exact within

namespace Histogram

structure Ascends (h : Histogram Int64) (dimension : Record → Int64) (reduction : Reduction)
    (records : List Record) (integers : List Int64) : Prop where
  ascending : integers.Pairwise (· < ·)
  labels : h.labels = integers.map fun n => Text.decimal n.toInt
  listed : ∀ n, n ∈ integers ↔ (∃ r ∈ records, dimension r = n) ∧
    figure reduction.mode ((records.filter (dimension · = n)).map reduction.value) ≠ 0
  values : ∀ n ∈ integers, h.get? (Text.decimal n.toInt) =
    some (figure reduction.mode ((records.filter (dimension · = n)).map reduction.value))

variable {h : Histogram Int64} {dimension : Record → Int64} {reduction : Reduction}
  {records : List Record} {keys : List String}

theorem ShowsLabels.ascends
    (shows : h.ShowsLabels (fun r => some (Text.decimal (dimension r).toInt)) .numeric (· ≠ 0)
      reduction records keys) :
    ∃ integers, h.Ascends dimension reduction records integers := by
  have byValue : KeyOrder.ByValue _ keys := shows.ordered
  have within : h.labels.Sublist keys := shows.labels ▸ List.filter_sublist
  have known (key : String) :
      key ∈ keys ↔ ∃ r ∈ records, Text.decimal (dimension r).toInt = key := by
    rw [byValue.perm.mem_iff, List.mem_eraseDups]
    simp
  have under (n : Int64) :
      reduction.under (fun r => some (Text.decimal (dimension r).toInt)) records
          (Text.decimal n.toInt) =
        figure reduction.mode ((records.filter (dimension · = n)).map reduction.value) := by
    simp only [Reduction.under, Option.some.injEq, Text.decimal_eq_iff]
  obtain ⟨integers, texts⟩ := exists_integers fun label (member : label ∈ h.labels) =>
    have ⟨r, _, same⟩ := (known label).mp (within.subset member)
    ⟨dimension r, same⟩
  have member_iff (n : Int64) : n ∈ integers ↔ Text.decimal n.toInt ∈ h.labels := by
    rw [← texts]
    exact (List.mem_map_of_injective fun a b same => Text.decimal_injective same).symm
  refine ⟨integers, ?_, texts.symm, fun n => ?_, fun n member => ?_⟩
  case refine_1 =>
    have sorted := (byValue.ascending.and shows.distinct).sublist within
    rw [← texts, List.pairwise_map] at sorted
    refine sorted.imp fun {m n} before => Int64.lt_of_le_of_ne ?_ ?_
    next => exact before.1 m n (KeyOrder.value?_decimal m) (KeyOrder.value?_decimal n)
    next => exact fun same => before.2 (Text.decimal_eq_iff.mpr same)
  case refine_2 =>
    rw [member_iff, shows.labels, List.mem_filter, known, under]
    simp only [Text.decimal_eq_iff, decide_eq_true_eq]
  case refine_3 => rw [shows.values _ ((member_iff n).mp member), under]

end Histogram

namespace Engine

theorem histogram_replication (e : Engine) {s : Subset} {transforms : Transforms} {sum : String}
    {find : Option String} {reduction : Reduction}
    (requested : Reduction.request e.release sum find transforms = .ok reduction)
    (sequential : e.fanout.spreads s.size = false) :
    ∃ h integers, e.histogram s (.replication transforms) sum find = .ok h ∧
      h.Ascends (transforms.getD "fileReplica" Record.replication) reduction s.records
        integers := by
  obtain ⟨h, keys, found, shows⟩ := e.histogram_showsLabels (.replication transforms) rfl requested
    sequential
  obtain ⟨integers, ascends⟩ := shows.ascends
  exact ⟨h, integers, found, ascends⟩

theorem replication_ascends (e : Engine) (s : Subset) (transforms : Transforms) (sum : String)
    (find : Option String) (sequential : e.fanout.spreads s.size = false) :
    (∀ a, Aggregation.resolve sum = .ok a → (find.map Text.trim).filter (· ≠ "") = none →
      ∃ h integers, e.histogram s (.replication transforms) sum find = .ok h ∧
        h.Ascends ((transforms.lookup "fileReplica").getD Record.replication)
          (.sum ((transforms.lookup sum).getD a.contribution)) s.records integers) ∧
    (∀ text spec, (find.map Text.trim).filter (· ≠ "") = some text →
      FindSpec.parse text = .ok spec →
      ∃ h integers, e.histogram s (.replication transforms) sum find = .ok h ∧
        h.Ascends ((transforms.lookup "fileReplica").getD Record.replication)
          (.find e.release spec) s.records integers) ∧
    ∀ others : Transforms,
      others.lookup "fileReplica" = transforms.lookup "fileReplica" →
      ((find.map Text.trim).filter (· ≠ "") = none → others.lookup sum = transforms.lookup sum) →
      e.histogram s (.replication others) sum find =
        e.histogram s (.replication transforms) sum find := by
  refine ⟨fun a resolved blank => ?_, fun text spec given parsed => ?_, fun others same taken => ?_⟩
  next => exact e.histogram_replication (Reduction.request_of_blank blank resolved _) sequential
  next => exact e.histogram_replication (Reduction.request_of_spec given parsed _) sequential
  next =>
    have scaled : (Axis.replication others).scale e.release e.now =
        (Axis.replication transforms).scale e.release e.now := by
      simp only [Axis.scale, Transforms.getD_congr same]
    simp only [histogram, histogramOver, scaled, Axis.transforms, Reduction.request_congr taken]

def measured : Subset where
  records :=
    [.file 1 "/a" (.of 10 3 1), .file 2 "/b" (.of Int64.minValue 3 1), .file 3 "/c" (.of 9 3 1),
      .file 4 "/d" (.of 10 3 1)]

/-- Sizes are counted in place of replicas, those of nine bytes for nothing. -/
theorem replication_ascends_of_sizes :
    let transforms : Transforms :=
      [("fileReplica", Record.fileSize), ("count", fun r => satSub r.fileSize 9)]
    bare.fanout.spreads measured.size = false ∧ Aggregation.resolve "count" = .ok .count ∧
      ∃ h integers, bare.histogram measured (.replication transforms) "count" none = .ok h ∧
        bare.histogram measured (.replication (("user", fun _ => 7) :: transforms)) "count" none =
          .ok h ∧
        h.Ascends Record.fileSize (.sum fun r => satSub r.fileSize 9) measured.records integers ∧
        Int64.minValue ∈ integers ∧ 9 ∉ integers ∧ h.get? "10" = some 2 := by
  intro transforms
  have sequential : bare.fanout.spreads measured.size = false := by decide
  obtain ⟨sums, -, other_names⟩ :=
    replication_ascends bare measured transforms "count" none sequential
  obtain ⟨h, integers, found, ascends⟩ := sums .count rfl rfl
  have same := other_names (("user", fun _ => 7) :: transforms) rfl fun _ => rfl
  have ten : (10 : Int64) ∈ integers := (ascends.listed 10).mpr (by decide)
  exact ⟨sequential, rfl, h, integers, found, same.trans found, ascends,
    (ascends.listed _).mpr (by decide), mt (ascends.listed 9).mp (by decide),
    (ascends.values 10 ten).trans (by decide)⟩

end Engine

end Census
