import Census.Proofs.Intervals
import Census.Proofs.Placement
import Census.Proofs.Totals

set_option autoImplicit false

namespace Census

namespace Bucketing

theorem find_same_over_any_cut (release : Release) (spec : FindSpec) (pieces : Cut Record) :
    (∀ dimension layout, ∃ h,
      rangedOver pieces dimension (.find release spec) layout = .ok h ∧
      rangedOver (.run pieces.toList) dimension (.find release spec) layout = .ok h ∧
      (pieces.toList = [] → h = .empty) ∧
      (pieces.toList ≠ [] → ShowsRanges h layout.thresholds layout.labels dimension
        (.find release spec) pieces.toList)) ∧
    ∀ label order, ∃ d,
      discreteOver pieces label (.find release spec) order = .ok d ∧
      discreteOver (.run pieces.toList) label (.find release spec) order = .ok d ∧
      d.Places (KeyTable.discover (pieces.toList.map label) order).keys.toList label
        (.find release spec) pieces.toList := by
  have cut : ReducesInOrder pieces (.find release spec) := reducesInOrder_of_find pieces rfl
  have whole : ReducesInOrder (.run pieces.toList) (.find release spec) := reducesInOrder_run _ _
  constructor
  · intro dimension layout
    by_cases none_given : pieces.toList = []
    · exact ⟨.empty, by simp [rangedOver, none_given], by simp [rangedOver, Cut.toList, none_given],
        fun _ => rfl, fun some_given => absurd none_given some_given⟩
    · obtain ⟨h, found, shows⟩ := rangedOver_showsRanges cut none_given dimension layout
      have same := (rangedOver_figures whole none_given dimension layout).trans
        (rangedOver_figures cut none_given dimension layout).symm
      exact ⟨h, found, same.trans found, fun given => absurd given none_given, fun _ => shows⟩
  · intro label order
    exact ⟨_, discreteOver_under cut label order, discreteOver_under whole label order,
      Discrete.under_places (KeyTable.discover_consistent (pieces.toList.map label) order).distinct⟩

variable {pieces : Cut Record} {f : Record → Int64}

theorem SumsInOrder.over_cut (inOrder : SumsInOrder pieces f) (buckets : Nat)
    (place : Record → Nat) :
    reduceBuckets none buckets (pieces.map fun r => (place r, f r)) =
      reduceBuckets none buckets ((Cut.run pieces.toList).map fun r => (place r, f r)) :=
  (inOrder buckets place).trans (sumsInOrder_run pieces.toList f buckets place).symm

theorem rangedOver_run_of_sumsInOrder (inOrder : SumsInOrder pieces f)
    (dimension : Record → Int64) (layout : RangedLayout) :
    rangedOver pieces dimension (.sum f) layout =
      rangedOver (.run pieces.toList) dimension (.sum f) layout := by
  have same := inOrder.over_cut layout.size fun r => layout.bucketOf (dimension r)
  simp only [rangedOver, Reduction.sum, same]
  rfl

theorem discreteOver_run_of_sumsInOrder (inOrder : SumsInOrder pieces f)
    (label : Record → Option String) (order : KeyOrder) :
    discreteOver pieces label (.sum f) order =
      discreteOver (.run pieces.toList) label (.sum f) order := by
  generalize discovered : KeyTable.discover (pieces.toList.map label) order = table
  have same := inOrder.over_cut table.cardinality fun r => table.idOf (label r)
  simp only [discreteOver, Reduction.sum, Cut.toList, Cut.map_map, Cut.toList_map, discovered, same]

end Bucketing

namespace Scale

theorem histogramOver_run_of_steady (scale : Scale) {pieces : Cut Record} {f : Record → Int64}
    (steady : Steady (pieces.toList.map f)) :
    scale.histogramOver pieces (.sum f) = scale.histogramOver (.run pieces.toList) (.sum f) := by
  have inOrder := Bucketing.sumsInOrder_of_steady steady
  cases scale with
  | ranges layout dimension =>
    exact Bucketing.rangedOver_run_of_sumsInOrder inOrder dimension layout
  | labels label order shown =>
    simp only [histogramOver, Bucketing.discreteOver_run_of_sumsInOrder inOrder]

def together : Scale :=
  .ranges ⟨[], ["all"], rfl, rfl⟩ fun _ => 0

theorem histogramOver_together {pieces : Cut Record} (some_given : pieces.toList ≠ [])
    (f : Record → Int64) :
    together.histogramOver pieces (.sum f) =
      .ok (.ofEntries [("all", pieces.reduce (fun rs => satSum (rs.map f)) satAdd)]) := by
  have reduced := Bucketing.reduceBuckets_sum pieces f 1 fun _ => 0
  rw [together, histogramOver, Bucketing.rangedOver_of_values some_given reduced]
  simp [List.range_succ]

theorem steady_iff_histograms_agree (f : Record → Int64) (records : List Record) :
    Steady (records.map f) ↔ ∀ pieces : Cut Record, pieces.toList.Perm records →
      ∀ scale : Scale,
        scale.histogramOver pieces (.sum f) = scale.histogramOver (.run pieces.toList) (.sum f) := by
  constructor
  · intro steady pieces same scale
    exact histogramOver_run_of_steady scale (steady.perm (same.map f).symm)
  · intro agree
    rw [steady_iff_cuts_agree]
    intro pieces same
    by_cases none_given : pieces.toList = []
    · have steady : Steady (pieces.toList.map f) := .of_nonneg (by simp [NonNeg, none_given])
      exact (steady_iff_cuts_agree f _).mp steady pieces (.refl _)
    · -- The bucket that holds all records shows their sum, as it is over the cut.
      have shown := agree pieces same together
      have given : (Cut.run pieces.toList).toList ≠ [] := none_given
      rw [histogramOver_together none_given, histogramOver_together given] at shown
      have entries := congrArg Histogram.entries (Except.ok.inj shown)
      simpa [Histogram.ofEntries, Cut.reduce] using entries

end Scale

namespace Aggregation

theorem steady_iff_sums_agree (a : Aggregation) (records : List Record) :
    Steady (records.map a.contribution) ↔ ∀ pieces : Cut Record, pieces.toList.Perm records →
      a.sumOver pieces = a.sumOver (.run pieces.toList) := by
  cases a with
  | count =>
    -- Records are counted and not added up, and ones are steady in any number.
    have one : 0 ≤ (1 : Int64).toInt := by decide
    have ones : NonNeg (records.map (contribution · .count)) := nonNeg_map fun _ _ => one
    exact ⟨fun _ _ _ => rfl, fun _ => .of_nonneg ones⟩
  | _ => exact steady_iff_cuts_agree _ records

end Aggregation

namespace Fanout

variable {α : Type} {xs ys : List α} {fanout : Fanout}

theorem morsels_append (spreads : fanout.spreads (xs ++ ys).length = true)
    (left : xs.length = fanout.morsel.toNat) (right : ys.length = fanout.morsel.toNat)
    (some_given : 0 < xs.length) : fanout.morsels (xs ++ ys) = .join (.run xs) (.run ys) := by
  have last : Cut.pieces fanout.morsel.toNat ys = [ys] := by
    rw [Cut.pieces, if_pos (by omega), ← right, List.take_length, List.drop_length, Cut.pieces]
    simp
  have two : Cut.pieces fanout.morsel.toNat (xs ++ ys) = [xs, ys] := by
    rw [Cut.pieces, if_pos (by rw [List.length_append]; omega), List.take_left' left,
      List.drop_left' left, last]
  rw [morsels, if_pos spreads, two, Cut.ofRuns]
  simp [Cut.ofRuns]

theorem halves_append (spreads : fanout.spreads (xs ++ ys).length = true)
    (left : xs.length = fanout.morsel.toNat) (right : ys.length = fanout.morsel.toNat)
    (some_given : 0 < xs.length) : fanout.halves (xs ++ ys) = .join (.run xs) (.run ys) := by
  have middle : (xs ++ ys).length / 2 = xs.length := by
    rw [List.length_append]
    omega
  have whole (run : List α) (length : run.length = fanout.morsel.toNat) :
      Cut.halves fanout.morsel.toNat run = .run run := by
    rw [Cut.halves, if_neg (by omega)]
  rw [halves, if_pos spreads, Cut.halves, if_pos (by omega), middle, List.take_left, List.drop_left,
    whole xs left, whole ys right]

end Fanout

namespace Engine

theorem sum_of_steady (e : Engine) {records : List Record} {name : String} {a : Aggregation}
    (resolved : Aggregation.resolve name = .ok a) (steady : Steady (records.map a.contribution))
    (fanout : Fanout) :
    (e.withFanout fanout).sum ⟨records⟩ name = .ok (a.sumOver (.run records)) := by
  have same := (Aggregation.steady_iff_sums_agree a records).mp steady (fanout.morsels records)
    (by rw [Fanout.toList_morsels])
  rw [Fanout.toList_morsels] at same
  exact ((e.withFanout fanout).sum_of_resolved _ resolved).trans (congrArg Except.ok same)

theorem histogram_of_steady (e : Engine) {records : List Record} {axis : Axis} {name : String}
    {find : Option String} {f : Record → Int64}
    (requested : Reduction.request e.release name find axis.transforms = .ok (.sum f))
    (steady : Steady (records.map f)) (fanout : Fanout) :
    (e.withFanout fanout).histogram ⟨records⟩ axis name find =
      e.histogramOver (.run records) axis name find := by
  have halved : Steady ((fanout.halves records).toList.map f) := by
    rwa [Fanout.toList_halves]
  have same (scale : Scale) := scale.histogramOver_run_of_steady halved
  simp only [Fanout.toList_halves] at same
  change e.histogramOver (fanout.halves records) axis name find = _
  simp only [histogramOver, requested, bind, Except.bind, same]

theorem sums_over_any_cut (e : Engine) (records : List Record) :
    (∀ a : Aggregation, Steady (records.map a.contribution) ↔
      ∀ pieces : Cut Record, pieces.toList.Perm records →
        a.sumOver pieces = a.sumOver (.run pieces.toList)) ∧
    (∀ f : Record → Int64, Steady (records.map f) ↔
      ∀ pieces : Cut Record, pieces.toList.Perm records → ∀ scale : Scale,
        scale.histogramOver pieces (.sum f) = scale.histogramOver (.run pieces.toList) (.sum f)) ∧
    (∀ name a, Aggregation.resolve name = .ok a → Steady (records.map a.contribution) →
      ∀ one other,
        (e.withFanout one).sum ⟨records⟩ name = (e.withFanout other).sum ⟨records⟩ name) ∧
    ∀ axis name find f,
      Reduction.request e.release name find axis.transforms = .ok (.sum f) →
      Steady (records.map f) → ∀ one other,
        (e.withFanout one).histogram ⟨records⟩ axis name find =
          (e.withFanout other).histogram ⟨records⟩ axis name find := by
  refine ⟨fun a => a.steady_iff_sums_agree records,
    fun f => Scale.steady_iff_histograms_agree f records, ?_, ?_⟩
  · intro name a resolved steady one other
    rw [sum_of_steady e resolved steady, sum_of_steady e resolved steady]
  · intro axis name find f requested steady one other
    rw [histogram_of_steady e requested steady, histogram_of_steady e requested steady]

def sized (id : Nat) (size : Int64) : Record :=
  .file (Int64.ofNat id) "/f" (.of size 1 1)

theorem sums_over_any_cut_of_both_signs :
    Steady ([sized 1 Int64.minValue, sized 2 Int64.maxValue].map
        (Aggregation.contribution · .fileSize)) ∧
      (bare.withFanout ⟨0, 1⟩).histogram ⟨[sized 1 Int64.minValue, sized 2 Int64.maxValue]⟩ .owner
          "fileSize" none =
        (bare.withFanout .sequential).histogram
          ⟨[sized 1 Int64.minValue, sized 2 Int64.maxValue]⟩ .owner "fileSize" none := by
  have steady : Steady ([sized 1 Int64.minValue, sized 2 Int64.maxValue].map
      (Aggregation.contribution · .fileSize)) := ⟨by decide, by decide⟩
  obtain ⟨-, -, -, histograms⟩ :=
    sums_over_any_cut bare [sized 1 Int64.minValue, sized 2 Int64.maxValue]
  exact ⟨steady, histograms .owner "fileSize" none _ rfl steady ⟨0, 1⟩ .sequential⟩

def firstMorsel : List Record :=
  sized 0 Int64.maxValue :: (List.range 63).map fun i => sized (i + 1) 0

def secondMorsel : List Record :=
  sized 64 1 :: sized 65 (-1) :: (List.range 62).map fun i => sized (i + 66) 0

/-- The greatest size is followed by one more and one less, which a morsel of their own undoes. -/
def overAndBack : Subset where
  records := firstMorsel ++ secondMorsel

theorem sums_differ_past_the_words :
    (bare.withFanout ⟨0, 64⟩).settings.validate = .ok () ∧
      (bare.withFanout ⟨0, 64⟩).sum overAndBack "fileSize" = .ok Int64.maxValue ∧
      (bare.withFanout .sequential).sum overAndBack "fileSize" = .ok (Int64.maxValue - 1) ∧
      ((bare.withFanout ⟨0, 64⟩).histogram overAndBack (.accessTime "hours") "fileSize" none).map
          (·.values) = .ok [Int64.maxValue, 0, 0, 0, 0, 0, 0] ∧
      ((bare.withFanout .sequential).histogram overAndBack (.accessTime "hours") "fileSize"
          none).map (·.values) = .ok [Int64.maxValue - 1, 0, 0, 0, 0, 0, 0] := by
  have spreads : (Fanout.mk 0 64).spreads (firstMorsel ++ secondMorsel).length = true := by
    decide +kernel
  have morsels := Fanout.morsels_append spreads (by decide) (by decide) (by decide)
  have halves := Fanout.halves_append spreads (by decide) (by decide) (by decide)
  refine ⟨rfl, ?_, ?_, ?_, ?_⟩
  · change Except.ok (Aggregation.sumOver .fileSize (Fanout.morsels ⟨0, 64⟩ _)) = _
    rw [overAndBack, morsels]
    exact congrArg Except.ok (by decide +kernel)
  · exact congrArg Except.ok (by decide +kernel)
  · change (Engine.histogramOver _ (Fanout.halves ⟨0, 64⟩ _) _ _ _).map _ = _
    rw [overAndBack, halves]
    decide +kernel
  · decide +kernel

end Engine

end Census
