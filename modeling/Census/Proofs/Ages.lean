import Census.Proofs.BucketFilters

set_option autoImplicit false

namespace Census

theorem satSub_le_iff (now t : Int64) {span : Int64} (nonneg : 0 ≤ span.toInt)
    (small : span.toInt < Int64.maxValue.toInt) : satSub now t ≤ span ↔ satSub now span ≤ t := by
  have clock := toInt_bounds now
  have time := toInt_bounds t
  -- A difference past the words is past every span on its side, so the limits change no answer.
  rw [toInt_minValue, toInt_maxValue] at clock time
  rw [toInt_maxValue] at small
  simp only [Int64.le_iff_toInt_le, satSub, toInt_clamp, toInt_minValue, toInt_maxValue]
  split <;> split <;> omega

namespace TimeUnit

def ago : TimeUnit → String
  | .minutes => "minutesAgo"
  | .hours => "hoursAgo"
  | .days => "daysAgo"
  | .months => "monthsAgo"
  | .years => "yearsAgo"

theorem named?_ago (unit : TimeUnit) : LongOp.named? unit.ago = some (.within unit) := by
  cases unit <;> rfl

theorem ago_clean (unit : TimeUnit) : ':' ∉ unit.ago.toList := by
  cases unit <;> decide

end TimeUnit

namespace TimeRange

/-- The unit in which a filter asks for an age, and how many of it are in a unit of the range. -/
def agoUnit : TimeRange → TimeUnit × Int64
  | .hours => (.hours, 1)
  | .days => (.days, 1)
  | .weeks => (.days, 7)
  | .months => (.months, 1)
  | .years => (.years, 1)

def agoSpec (range : TimeRange) (n : Int64) : String :=
  range.agoUnit.1.ago ++ ":" ++ Text.decimal (n * range.agoUnit.2).toInt

theorem span_of_bound (range : TimeRange) {n : Int64} (listed : n ∈ range.bounds) :
    satMul (n * range.agoUnit.2) range.agoUnit.1.millis = n * range.unit ∧
      0 ≤ (n * range.unit).toInt ∧ (n * range.unit).toInt < Int64.maxValue.toInt := by
  have spans : range.bounds.all (fun n =>
      satMul (n * range.agoUnit.2) range.agoUnit.1.millis = n * range.unit ∧
        0 ≤ (n * range.unit).toInt ∧ (n * range.unit).toInt < Int64.maxValue.toInt) = true := by
    cases range <;> decide
  exact of_decide_eq_true (List.all_eq_true.mp spans n listed)

theorem bucketOf_lt_iff_test (range : TimeRange) {j : Nat} (inside : j < range.bounds.length)
    (now t : Int64) :
    range.layout.bucketOf (satSub now t) < j + 1 ↔
      (LongComparison.mk (.within range.agoUnit.1) (range.bounds[j] * range.agoUnit.2) now).test t =
        true := by
  obtain ⟨same, nonneg, small⟩ := range.span_of_bound (List.getElem_mem inside)
  have within : j < range.layout.thresholds.length := by simpa [layout] using inside
  have threshold : range.layout.thresholds[j] = range.bounds[j] * range.unit := by simp [layout]
  rw [RangedLayout.bucketOf_lt_iff _ _ within, threshold, satSub_le_iff now t nonneg small, ← same]
  exact decide_eq_true_iff.symm

end TimeRange

namespace Engine

variable {e : Engine} {s : Subset}

theorem combinedFilter_long (a : LongAttr) {operator : String} {op : LongOp}
    (named : LongOp.named? operator = some op) (clean : ':' ∉ operator.toList) (n : Int64)
    (distinct : s.ids.Nodup) :
    e.combinedFilter s [a.name] [operator ++ ":" ++ Text.decimal n.toInt] =
      .ok ⟨s.records.filter fun r => (LongComparison.mk op n e.now).test (a.value e.release r)⟩ := by
  have compiled := Filter.compileAll_single (Filter.compile_long e.now a named clean n)
  exact combinedFilter_of_decided compiled (fun _ => rfl) distinct

theorem histogram_counts {axis : Axis} {layout : RangedLayout} {dimension : Record → Int64}
    (plain : axis.transforms = [])
    (scaled : axis.scale e.release e.now = .ok (.ranges layout dimension)) :
    ∃ h, e.histogram s axis "count" none = .ok h ∧ NonNeg h.values ∧
      ∀ n, satSum (h.values.take n) =
        clamp (s.records.filter fun r => layout.bucketOf (dimension r) < n).length := by
  have resolved : Aggregation.resolve "count" = .ok .count := rfl
  have ones : ∀ r ∈ (e.fanout.halves s.records).toList,
      0 ≤ (Aggregation.count.contribution r).toInt := fun _ _ => (by decide : 0 ≤ (1 : Int64).toInt)
  obtain ⟨h, found, nonneg, -, running⟩ := Scale.running_total layout dimension ones
  refine ⟨h, ?_, nonneg, fun n => Int64.toInt_inj.mp ?_⟩
  · rw [histogram, e.histogramOver_sum scaled plain resolved rfl]
    exact found
  · rw [running, e.fanout.toList_halves, Aggregation.map_count, exactSum_ones, toInt_clamp_natCast]

/-- The buckets of an axis up to a position hold as many records as a filter keeps, which their sum
shows as far as words go. -/
def CountsUpTo (e : Engine) (s : Subset) (axis : Axis) (last : Nat) (field spec : String) : Prop :=
  ∃ h t, e.histogram s axis "count" none = .ok h ∧ e.combinedFilter s [field] [spec] = .ok t ∧
    satSum (h.values.take (last + 1)) = clamp t.size ∧
    ((t.size : Int) < Int64.maxValue.toInt → exactSum (h.values.take (last + 1)) = t.size)

variable {range : TimeRange} {j : Nat}

theorem countsUpTo_of_scale {axis : Axis} {a : LongAttr} (distinct : s.ids.Nodup)
    (plain : axis.transforms = [])
    (scaled : axis.scale e.release e.now =
      .ok (.ranges range.layout fun r => satSub e.now (a.value e.release r)))
    (inside : j < range.bounds.length) :
    e.CountsUpTo s axis j a.name (range.agoSpec range.bounds[j]) := by
  obtain ⟨h, found, nonneg, counts⟩ := histogram_counts (s := s) plain scaled
  have kept : e.combinedFilter s [a.name] [range.agoSpec range.bounds[j]] = _ :=
    combinedFilter_long a (TimeUnit.named?_ago _) (TimeUnit.ago_clean _) _ distinct
  have counted := counts (j + 1)
  simp only [range.bucketOf_lt_iff_test inside, Bool.decide_eq_true] at counted
  refine ⟨h, _, found, kept, counted, fun small => ?_⟩
  have shown : NonNeg (h.values.take (j + 1)) :=
    fun v member => nonneg v (List.mem_of_mem_take member)
  have total := congrArg Int64.toInt counted
  rw [toInt_satSum_of_nonneg shown, toInt_clamp_natCast] at total
  simp only [Subset.size] at small ⊢
  omega

theorem ages_agree (e : Engine) (s : Subset) (distinct : s.ids.Nodup) {text : String}
    (resolved : TimeRange.resolve text = .ok range) (inside : j < range.bounds.length) :
    e.CountsUpTo s (.modTime text) j "modTime" (range.agoSpec range.bounds[j]) ∧
      e.CountsUpTo s (.accessTime text) j "accessTime" (range.agoSpec range.bounds[j]) := by
  have scaled (time : Record → Int64) : Axis.age text e.now time =
      .ok (.ranges range.layout fun r => satSub e.now (time r)) := by
    rw [Axis.age, resolved]
    rfl
  have modified : (Axis.modTime text).scale e.release e.now = _ := scaled (·.modTime)
  have accessed : (Axis.accessTime text).scale e.release e.now = _ := scaled (·.accessTime)
  exact ⟨countsUpTo_of_scale (a := .modTime) distinct rfl modified inside,
    countsUpTo_of_scale (a := .accessTime) distinct rfl accessed inside⟩

/-- Times at an age of two weeks, just past it, and at both ends of the words. -/
def aged : Subset where
  records :=
    [{ Record.file 1 "/a" (.of 1 1 1) with modTime := -1209600000 },
      { Record.file 2 "/b" (.of 1 1 1) with modTime := -1209600001 },
      { Record.file 3 "/c" (.of 1 1 1) with modTime := Int64.minValue },
      { Record.file 4 "/d" (.of 1 1 1) with modTime := Int64.maxValue }]

theorem ages_agree_at_two_weeks :
    aged.ids.Nodup ∧ TimeRange.resolve "Weeks" = .ok .weeks ∧ 1 < TimeRange.weeks.bounds.length ∧
      bare.CountsUpTo aged (.modTime "Weeks") 1 "modTime" "daysAgo:14" ∧
      ∃ h, bare.histogram aged (.modTime "Weeks") "count" none = .ok h ∧
        satSum (h.values.take 2) = 2 := by
  have distinct : aged.ids.Nodup := by decide
  have resolved : TimeRange.resolve "Weeks" = .ok .weeks := rfl
  have inside : 1 < TimeRange.weeks.bounds.length := by decide
  have asked : TimeRange.weeks.agoSpec 2 = "daysAgo:14" := rfl
  have second : TimeRange.weeks.bounds[1] = 2 := rfl
  obtain ⟨modified, -⟩ := ages_agree bare aged distinct resolved inside
  rw [second, asked] at modified
  have ⟨h, t, found, kept, counted, _⟩ := modified
  have compiled : Filter.compileAll bare.now ["modTime"] ["daysAgo:14"] =
      .ok (.long .modTime ⟨.within .days, 14, 0⟩) := rfl
  obtain rfl := Except.ok.inj
    (kept.symm.trans (combinedFilter_of_decided compiled (fun _ => rfl) distinct))
  exact ⟨distinct, resolved, inside, modified, h, found, counted.trans (by decide)⟩

end Engine

end Census
