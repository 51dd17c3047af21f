import Census.Engine.Axis
import Census.Proofs.Entries
import Census.Proofs.Selection
import Census.Proofs.Sums

set_option autoImplicit false

namespace Census

section Parts

variable {κ : Type} [DecidableEq κ] (place : Record → Option κ) (f : Record → Int64)

theorem exactSum_filter_or {p q : Record → Bool} {records : List Record}
    (apart : ∀ r ∈ records, p r = true → q r = false) :
    exactSum ((records.filter fun r => p r || q r).map f) =
      exactSum ((records.filter p).map f) + exactSum ((records.filter q).map f) := by
  induction records with
  | nil => rfl
  | cons r rest ih =>
    obtain ⟨first, others⟩ := List.forall_mem_cons.mp apart
    have later := ih others
    cases here : p r <;> cases there : q r
    · simpa [here, there] using later
    · simp [exactSum, here, there, later, Int.add_left_comm]
    · simp [exactSum, here, there, later, Int.add_assoc]
    · exact absurd (first here) (by simp [there])

theorem satSum_filter_or {f : Record → Int64} {p q : Record → Bool} {records : List Record}
    (apart : ∀ r ∈ records, p r = true → q r = false)
    (nonneg : ∀ r ∈ records, 0 ≤ (f r).toInt) :
    satSum ((records.filter fun r => p r || q r).map f) =
      satAdd (satSum ((records.filter p).map f)) (satSum ((records.filter q).map f)) := by
  have above := toInt_maxValue
  have left := exactSum_nonneg (nonNeg_map_filter nonneg p)
  have right := exactSum_nonneg (nonNeg_map_filter nonneg q)
  apply Int64.toInt_inj.mp
  rw [toInt_satAdd_of_nonneg (satSum_nonneg (nonNeg_map_filter nonneg p))
    (satSum_nonneg (nonNeg_map_filter nonneg q)),
    toInt_satSum_of_nonneg (nonNeg_map_filter nonneg p),
    toInt_satSum_of_nonneg (nonNeg_map_filter nonneg q),
    toInt_satSum_of_nonneg (nonNeg_map_filter nonneg _), exactSum_filter_or f apart]
  omega

theorem exactSum_parts {keys : List κ} (distinct : keys.Nodup) (records : List Record) :
    exactSum (keys.flatMap fun key => (records.filter (place · = some key)).map f) =
      exactSum ((records.filter fun r => ∃ key ∈ keys, place r = some key).map f) := by
  induction keys with
  | nil => simp [exactSum]
  | cons key rest ih =>
    obtain ⟨fresh, later⟩ := List.nodup_cons.mp distinct
    -- Keys are distinct, so the records under this one are none of those under the others.
    have apart : ∀ r ∈ records, decide (place r = some key) = true →
        decide (∃ other ∈ rest, place r = some other) = false := by
      intro r _ here
      rw [decide_eq_true_eq] at here
      rw [decide_eq_false_iff_not]
      intro listed
      obtain ⟨other, member, there⟩ := listed
      obtain rfl := Option.some.inj (here.symm.trans there)
      exact fresh member
    rw [List.flatMap_cons, exactSum_append, ih later, ← exactSum_filter_or f apart]
    congr 3
    funext r
    simp

theorem toInt_satSum_parts {keys : List κ} (distinct : keys.Nodup) {records : List Record}
    (nonneg : ∀ r ∈ records, 0 ≤ (f r).toInt) :
    (satSum (keys.map fun key => satSum ((records.filter (place · = some key)).map f))).toInt =
      min Int64.maxValue.toInt
        (exactSum ((records.filter fun r => ∃ key ∈ keys, place r = some key).map f)) := by
  rw [← exactSum_parts place f distinct]
  have parts := toInt_satSum_satSums
    (keys.map fun key => (records.filter (place · = some key)).map f) (by
      intro part member v inside
      obtain ⟨key, _, rfl⟩ := List.mem_map.mp member
      exact nonNeg_map_filter nonneg _ v inside)
  simpa [Function.comp_def, List.flatMap_def] using parts

end Parts

theorem satSum_filter_of_zeros {values : List Int64} {keep : Int64 → Bool}
    (zeros : ∀ v ∈ values, keep v = false → v = 0) :
    satSum (values.filter keep) = satSum values := by
  induction values using List.reverseRecOn with
  | nil => rfl
  | append_singleton values v ih =>
    have earlier := ih fun w member => zeros w (by simp [member])
    rw [List.filter_append, satSum_snoc]
    cases kept : keep v with
    | true => simp [kept, satSum_snoc, earlier]
    | false =>
      obtain rfl := zeros v (by simp) kept
      simp [kept, earlier]

namespace Scale

def Places : Scale → Record → Prop
  | .ranges _ _, _ => True
  | .labels label order _, r =>
    ∃ key, label r = some key ∧ ∀ list, order = .canonical list → key ∈ list

/-- Nothing but an empty sum is kept back, where no sum can be negative. -/
def HidesZeros : Scale → Prop
  | .ranges _ _ => True
  | .labels _ _ shown => ∀ v : Int64, 0 ≤ v.toInt → shown v = false → v = 0

variable {f : Record → Int64} {pieces : Cut Record}

theorem running_total (layout : RangedLayout) (dimension : Record → Int64)
    (nonneg : ∀ r ∈ pieces.toList, 0 ≤ (f r).toInt) :
    ∃ h, Bucketing.rangedOver pieces dimension (.sum f) layout = .ok h ∧ NonNeg h.values ∧
      h.values.length ≤ layout.size ∧
      ∀ n, (satSum (h.values.take n)).toInt = min Int64.maxValue.toInt
        (exactSum ((pieces.toList.filter fun r => layout.bucketOf (dimension r) < n).map f)) := by
  by_cases none_given : pieces.toList = []
  · have nothing : (Histogram.empty : Histogram Int64).values = [] := rfl
    refine ⟨.empty, by simp [Bucketing.rangedOver, none_given], ?_⟩
    rw [nothing, none_given]
    refine ⟨by simp [NonNeg], Nat.zero_le _, fun n => ?_⟩
    rw [List.take_nil]
    rfl
  · have inOrder := Bucketing.sumsInOrder_of_nonneg nonneg
    refine ⟨_, Bucketing.rangedOver_sum inOrder none_given dimension layout, ?_⟩
    rw [Histogram.values, Histogram.ofEntries, List.map_snd_zip (by simp [RangedLayout.size])]
    refine ⟨nonNeg_map fun bucket _ => satSum_nonneg (nonNeg_map_filter nonneg _), by simp, ?_⟩
    intro n
    have parts := toInt_satSum_parts (fun r => some (layout.bucketOf (dimension r))) f
      (List.nodup_range (n := min n layout.size)) nonneg
    -- No record is past the last bucket, so it does not matter whether `n` is.
    have before : pieces.toList.filter (fun r => ∃ bucket ∈ List.range (min n layout.size),
        some (layout.bucketOf (dimension r)) = some bucket) =
          pieces.toList.filter fun r => layout.bucketOf (dimension r) < n := by
      apply List.filter_congr
      intro r _
      have inside := layout.bucketOf_lt_size (dimension r)
      simp only [List.mem_range, Option.some.injEq, exists_eq_right', decide_eq_decide]
      omega
    rw [before] at parts
    rw [← parts, ← List.map_take, List.take_range]
    simp only [Option.some.injEq]

theorem ranged_total (layout : RangedLayout) (dimension : Record → Int64)
    (nonneg : ∀ r ∈ pieces.toList, 0 ≤ (f r).toInt) :
    ∃ h, Bucketing.rangedOver pieces dimension (.sum f) layout = .ok h ∧
      h.total.toInt = min Int64.maxValue.toInt (exactSum (pieces.toList.map f)) := by
  obtain ⟨h, summed, -, size, running⟩ := running_total layout dimension nonneg
  have everything :
      pieces.toList.filter (fun r => layout.bucketOf (dimension r) < layout.size) = pieces.toList :=
    List.filter_eq_self.mpr fun r _ => decide_eq_true (layout.bucketOf_lt_size (dimension r))
  refine ⟨h, summed, ?_⟩
  rw [Histogram.total, ← List.take_of_length_le size, running, everything]

theorem labelled_total (label : Record → Option String) (order : KeyOrder)
    {shown : Int64 → Bool} (hides : ∀ v : Int64, 0 ≤ v.toInt → shown v = false → v = 0)
    (nonneg : ∀ r ∈ pieces.toList, 0 ≤ (f r).toInt) :
    ∃ d, Bucketing.discreteOver pieces label (.sum f) order = .ok d ∧
      (d.histogram.filter fun _ value => shown value).total.toInt =
        min Int64.maxValue.toInt (exactSum ((pieces.toList.filter fun r =>
          ∃ key ∈ (KeyTable.discover (pieces.toList.map label) order).keys.toList,
            label r = some key).map f)) := by
  obtain ⟨d, summed, buckets⟩ :=
    Bucketing.discreteOver_sum (Bucketing.sumsInOrder_of_nonneg nonneg) label order
  refine ⟨d, summed, ?_⟩
  rw [← toInt_satSum_parts label f (KeyTable.discover_consistent _ order).distinct nonneg,
    buckets, Histogram.total, Histogram.values_filter_ofEntries, List.map_map,
    satSum_filter_of_zeros]
  · rfl
  · intro v member hidden
    obtain ⟨key, _, rfl⟩ := List.mem_map.mp member
    exact hides _ (satSum_nonneg (nonNeg_map_filter nonneg _)) hidden

theorem histogramOver_covered {scale : Scale} (hides : scale.HidesZeros) {covers : Record → Bool}
    (places : ∀ r, covers r = true ↔ scale.Places r)
    (nonneg : ∀ r ∈ pieces.toList, 0 ≤ (f r).toInt) :
    ∃ h, scale.histogramOver pieces (.sum f) = .ok h ∧
      h.total.toInt =
        min Int64.maxValue.toInt (exactSum ((pieces.toList.filter covers).map f)) := by
  cases scale with
  | ranges layout dimension =>
    obtain ⟨h, summed, total⟩ := ranged_total layout dimension nonneg
    have everything : pieces.toList.filter covers = pieces.toList :=
      List.filter_eq_self.mpr fun r _ => (places r).mpr trivial
    exact ⟨h, summed, by rw [everything, total]⟩
  | labels label order shown =>
    obtain ⟨d, summed, total⟩ := labelled_total label order hides nonneg
    refine ⟨_, by simp only [histogramOver, summed]; rfl, ?_⟩
    have covered : pieces.toList.filter (fun r =>
        ∃ key ∈ (KeyTable.discover (pieces.toList.map label) order).keys.toList,
          label r = some key) = pieces.toList.filter covers := by
      apply List.filter_congr
      intro r member
      rw [Bool.eq_iff_iff, decide_eq_true_eq, places r]
      exact KeyTable.exists_key_iff (List.mem_map_of_mem member)
    rw [total, covered]

end Scale

theorem FileType.ofExtension_mem_labels (extension : String) :
    FileType.ofExtension extension ∈ FileType.labels := by
  unfold FileType.ofExtension
  split
  next label found => exact List.mem_map_of_mem (List.mem_of_find?_eq_some found)
  next => decide

theorem FileType.classify_mem_labels (name : String) :
    FileType.classify name ∈ FileType.labels := by
  unfold FileType.classify
  split
  · exact FileType.ofExtension_mem_labels _
  · decide

theorem Release.policyLabel?_listed {release : Release} {r : Record} {label : String}
    (found : release.policyLabel? r = some label) : label ∈ release.policies.map Prod.snd := by
  obtain ⟨before, after, shape, _⟩ := List.lookup_eq_some_iff.mp found
  rw [shape]
  simp

theorem Release.policyLabel?_isSome (release : Release) (r : Record) :
    (release.policyLabel? r).isSome = release.policies.any (·.1 = release.storagePolicy r) := by
  rw [Bool.eq_iff_iff, policyLabel?, List.lookup_isSome_iff, List.any_eq_true]
  constructor
  · intro ⟨entry, member, same⟩
    exact ⟨entry, member, decide_eq_true (eq_of_beq same).symm⟩
  · intro ⟨entry, member, same⟩
    exact ⟨entry, member, beq_iff_eq.mpr (of_decide_eq_true same).symm⟩

namespace Axis

def covers (release : Release) : Axis → Record → Bool
  | .storageType, r => release.policies.any (·.1 = release.storagePolicy r)
  | .parentDir level, r => 0 ≤ level && (r.ancestor? level.toInt.toNat).isSome
  | .fileType, r => r.isFile
  | .dirQuota, r => r.isDir
  | .diskspace _, _ | .memory, _ | .fileSize, _ | .replication _, _ | .accessTime _, _
  | .modTime _, _ | .owner, _ | .group, _ => true

variable {release : Release} {now : Int64} {axis : Axis} {scale : Scale}

theorem age_eq_ok {range : String} {time : Record → Int64}
    (scaled : age range now time = .ok scale) :
    ∃ (found : TimeRange) (dimension : _), scale = .ranges found.layout dimension := by
  unfold age at scaled
  cases resolved : TimeRange.resolve range with
  | error e => simp [resolved, bind, Except.bind] at scaled
  | ok found =>
    simp only [resolved, bind, Except.bind, pure, Except.pure, Except.ok.injEq] at scaled
    exact ⟨_, _, scaled.symm⟩

theorem isSome_ancestor? (level : Int64) (r : Record) :
    (ancestor? level r).isSome = (0 ≤ level && (r.ancestor? level.toInt.toNat).isSome) := by
  unfold ancestor?
  by_cases negative : level < 0
  · have above : ¬(0 : Int64) ≤ level := Int64.not_le.mpr negative
    simp [negative, above]
  · have above : (0 : Int64) ≤ level := Int64.not_lt.mp negative
    simp [negative, above]

theorem scale_hidesZeros (scaled : axis.scale release now = .ok scale) : scale.HidesZeros := by
  cases axis with
  | accessTime | modTime =>
    obtain ⟨found, dimension, rfl⟩ := age_eq_ok scaled
    trivial
  | diskspace | memory | fileSize =>
    obtain rfl := Except.ok.inj scaled
    trivial
  | replication transforms =>
    obtain rfl := Except.ok.inj scaled
    intro v _ hidden
    simpa using hidden
  | storageType | owner | group | parentDir =>
    obtain rfl := Except.ok.inj scaled
    intro v _ hidden
    exact absurd hidden (by simp)
  | fileType =>
    obtain rfl := Except.ok.inj scaled
    intro v nonneg hidden
    have low : v ≤ 0 := Int64.not_lt.mp (by simpa using hidden)
    exact Int64.toInt_inj.mp (Int.le_antisymm (Int64.le_iff_toInt_le.mp low) nonneg)
  | dirQuota =>
    obtain rfl := Except.ok.inj scaled
    intro v nonneg hidden
    have low : ¬(0 : Int64) ≤ v := by simpa using hidden
    rw [Int64.le_iff_toInt_le] at low
    exact absurd nonneg low

theorem scale_places (scaled : axis.scale release now = .ok scale) (r : Record) :
    axis.covers release r = true ↔ scale.Places r := by
  cases axis with
  | accessTime | modTime =>
    obtain ⟨found, dimension, rfl⟩ := age_eq_ok scaled
    simp [covers, Scale.Places]
  | diskspace | memory | fileSize =>
    obtain rfl := Except.ok.inj scaled
    simp [covers, Scale.Places]
  | replication | owner | group =>
    obtain rfl := Except.ok.inj scaled
    simp [covers, Scale.Places]
  | storageType =>
    obtain rfl := Except.ok.inj scaled
    rw [covers, ← Release.policyLabel?_isSome, Option.isSome_iff_exists]
    constructor
    · intro ⟨label, found⟩
      refine ⟨label, found, fun list order => ?_⟩
      obtain rfl := KeyOrder.canonical.inj order
      exact Release.policyLabel?_listed found
    · intro ⟨label, found, _⟩
      exact ⟨label, found⟩
  | parentDir level =>
    obtain rfl := Except.ok.inj scaled
    rw [covers, ← isSome_ancestor?, Option.isSome_iff_exists]
    simp [Scale.Places]
  | fileType =>
    obtain rfl := Except.ok.inj scaled
    -- The order is the list of all types, so it leaves out no label that a file can have.
    cases kind : r.isFile with
    | true => simp [covers, Scale.Places, FileType.of?, kind, FileType.classify_mem_labels]
    | false => simp [covers, Scale.Places, FileType.of?, kind]
  | dirQuota =>
    obtain rfl := Except.ok.inj scaled
    cases kind : r.isDir <;> simp [covers, Scale.Places, kind]

end Axis

namespace Reduction

variable {release : Release} {sum : String} {find : Option String}

theorem request_of_blank (blank : (find.map Text.trim).filter (· ≠ "") = none) {a : Aggregation}
    (resolved : Aggregation.resolve sum = .ok a) (transforms : Transforms) :
    request release sum find transforms = .ok (.sum (transforms.getD sum a.contribution)) := by
  simp only [request, blank, resolved]
  rfl

theorem request_of_spec {text : String} (given : (find.map Text.trim).filter (· ≠ "") = some text)
    {spec : FindSpec} (parsed : FindSpec.parse text = .ok spec) (transforms : Transforms) :
    request release sum find transforms = .ok (.find release spec) := by
  simp only [request, given, parsed]
  rfl

end Reduction

namespace Engine

theorem sum_of_resolved (e : Engine) (s : Subset) {name : String} {a : Aggregation}
    (resolved : Aggregation.resolve name = .ok a) :
    e.sum s name = .ok (a.sumOver (e.fanout.morsels s.records)) := by
  simp only [sum, resolved, Aggregation.sum, bind, Except.bind, pure, Except.pure]

theorem histogramOver_of_request (e : Engine) {axis : Axis} {sum : String} {find : Option String}
    {scale : Scale} {reduction : Reduction} (scaled : axis.scale e.release e.now = .ok scale)
    (requested : Reduction.request e.release sum find axis.transforms = .ok reduction)
    (pieces : Cut Record) :
    e.histogramOver pieces axis sum find = scale.histogramOver pieces reduction := by
  rw [histogramOver, scaled]
  simp only [requested, bind, Except.bind]

theorem histogramOver_sum (e : Engine) {axis : Axis} {name : String} {find : Option String}
    {scale : Scale} {a : Aggregation} (scaled : axis.scale e.release e.now = .ok scale)
    (plain : axis.transforms = []) (resolved : Aggregation.resolve name = .ok a)
    (blank : (find.map Text.trim).filter (· ≠ "") = none) (pieces : Cut Record) :
    e.histogramOver pieces axis name find = scale.histogramOver pieces (.sum a.contribution) :=
  e.histogramOver_of_request scaled
    (by rw [plain]; exact Reduction.request_of_blank blank resolved []) pieces

theorem histogramOver_total (e : Engine) (pieces : Cut Record) (axis : Axis) (name : String)
    (find : Option String) {scale : Scale} {a : Aggregation}
    (scaled : axis.scale e.release e.now = .ok scale) (plain : axis.transforms = [])
    (resolved : Aggregation.resolve name = .ok a)
    (blank : (find.map Text.trim).filter (· ≠ "") = none)
    (nonneg : ∀ r ∈ pieces.toList, 0 ≤ (a.contribution r).toInt) :
    ∃ h, e.histogramOver pieces axis name find = .ok h ∧
      h.total.toInt = min Int64.maxValue.toInt
        (exactSum ((pieces.toList.filter (axis.covers e.release)).map a.contribution)) ∧
      (∀ parts : Cut Record, parts.toList = pieces.toList.filter (axis.covers e.release) →
        a.sumOver parts = h.total) ∧
      ∀ fanout, a.sum ⟨pieces.toList.filter (axis.covers e.release)⟩ fanout = h.total := by
  obtain ⟨h, found, total⟩ := Scale.histogramOver_covered (Axis.scale_hidesZeros scaled)
    (Axis.scale_places scaled) nonneg
  have summed (parts : Cut Record)
      (shape : parts.toList = pieces.toList.filter (axis.covers e.release)) :
      a.sumOver parts = h.total := by
    have nonneg_parts : ∀ r ∈ parts.toList, 0 ≤ (a.contribution r).toInt := by
      intro r member
      rw [shape] at member
      exact nonneg r (List.mem_filter.mp member).1
    apply Int64.toInt_inj.mp
    rw [Aggregation.sumOver_of_nonneg nonneg_parts,
      toInt_satSum_of_nonneg (nonNeg_map nonneg_parts), shape, total]
  refine ⟨h, ?_, total, summed, fun fanout => summed _ (fanout.toList_morsels _)⟩
  rw [e.histogramOver_sum scaled plain resolved blank]
  exact found

theorem histogramOver_total_past_the_words :
    ∃ h, bare.histogramOver
        (.join (.run [.file 1 "/a.csv" (.of Int64.maxValue 1 1), .directory 2 "/b" {}])
          (.join (.run []) (.run [.file 3 "/c.log" (.of 5 1 1)])))
        .fileType "fileSize" (some " ") = .ok h ∧
      h.total = Int64.maxValue := by
  obtain ⟨h, found, total, _⟩ := histogramOver_total bare
    (.join (.run [.file 1 "/a.csv" (.of Int64.maxValue 1 1), .directory 2 "/b" {}])
      (.join (.run []) (.run [.file 3 "/c.log" (.of 5 1 1)])))
    .fileType "fileSize" (some " ") rfl rfl rfl (by decide) (by decide)
  exact ⟨h, found, Int64.toInt_inj.mp (total.trans (by decide))⟩

end Engine

end Census
