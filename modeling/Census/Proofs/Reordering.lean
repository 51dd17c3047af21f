import Census.Proofs.Numerals
import Census.Proofs.Placement
import Census.Proofs.Totals

set_option autoImplicit false

namespace Census

theorem exactSum_eq_tally (values : List Int64) : exactSum values = tally Int64.toInt values := by
  induction values with
  | nil => rfl
  | cons v rest ih => rw [exactSum, tally, ih]

theorem exactSum_perm {xs ys : List Int64} (same : xs.Perm ys) : exactSum xs = exactSum ys := by
  rw [exactSum_eq_tally, exactSum_eq_tally, tally_perm Int64.toInt same]

theorem figure_perm {mode : Option FindMode} {xs ys : List Int64}
    (nonneg : mode = none → NonNeg xs) (same : xs.Perm ys) : figure mode xs = figure mode ys := by
  by_cases none_given : xs = []
  · subst none_given
    rw [same.nil_eq]
  · have some_left : ys ≠ [] := fun nothing => none_given (nothing ▸ same).eq_nil
    rcases mode with _ | _ | _ | _
    case none =>
      have steady := Steady.of_nonneg (nonneg rfl)
      rw [figure, figure, steady.satSum_eq_clamp, (steady.perm same).satSum_eq_clamp,
        tally_perm gain same, tally_perm loss same]
    case some.min =>
      obtain ⟨member, least⟩ := (figure_min_iff some_left _).mp rfl
      exact (figure_min_iff none_given _).mpr
        ⟨same.mem_iff.mpr member, fun w inside => least w (same.mem_iff.mp inside)⟩
    case some.max =>
      obtain ⟨member, greatest⟩ := (figure_max_iff some_left _).mp rfl
      exact (figure_max_iff none_given _).mpr
        ⟨same.mem_iff.mpr member, fun w inside => greatest w (same.mem_iff.mp inside)⟩
    case some.avg => rw [figure, figure, exactSum_perm same, same.length_eq]

def Reduction.SumsNonNeg (reduction : Reduction) (records : List Record) : Prop :=
  reduction.mode = none → ∀ r ∈ records, 0 ≤ (reduction.value r).toInt

section TwoOrders

variable {records others : List Record} {reduction : Reduction}

theorem Reduction.SumsNonNeg.perm (nonneg : reduction.SumsNonNeg records)
    (same : records.Perm others) : reduction.SumsNonNeg others :=
  fun sums r member => nonneg sums r (same.mem_iff.mpr member)

theorem figure_filter_perm (nonneg : reduction.SumsNonNeg records) (same : records.Perm others)
    (keep : Record → Bool) :
    figure reduction.mode ((records.filter keep).map reduction.value) =
      figure reduction.mode ((others.filter keep).map reduction.value) :=
  figure_perm (fun sums => nonNeg_map_filter (nonneg sums) keep) ((same.filter keep).map _)

end TwoOrders

theorem eraseDups_perm {xs ys : List String} (same : xs.Perm ys) :
    xs.eraseDups.Perm ys.eraseDups := by
  rw [List.perm_ext_iff_of_nodup (KeyTable.nodup_eraseDups xs) (KeyTable.nodup_eraseDups ys)]
  intro key
  rw [List.mem_eraseDups, List.mem_eraseDups, same.mem_iff]

namespace KeyOrder

def Settles (order : KeyOrder) (label : Record → Option String) : Prop :=
  match order with
  | .discovery => False
  | .numeric => ∀ r key, label r = some key → ∃ n : Int64, key = Text.decimal n.toInt
  | .canonical _ => True

theorem numericBefore_antisymm {m n : Int64}
    (first : numericBefore (Text.decimal m.toInt) (Text.decimal n.toInt) = true)
    (second : numericBefore (Text.decimal n.toInt) (Text.decimal m.toInt) = true) :
    Text.decimal m.toInt = Text.decimal n.toInt := by
  simp only [numericBefore, Text.int64_decimal, decide_eq_true_eq, Int64.le_iff_toInt_le]
    at first second
  rw [Int.le_antisymm first second]

theorem arrange_of_settles {order : KeyOrder} {label : Record → Option String}
    (settles : order.Settles label) {xs ys : List String}
    (given : ∀ key ∈ xs, ∃ r, label r = some key) (same : xs.Perm ys) :
    order.arrange xs = order.arrange ys := by
  cases order with
  | discovery => exact settles.elim
  | canonical list => exact arrange_canonical_of_perm list same
  | numeric =>
    apply mergeSort_eq_of_perm numericBefore_trans numericBefore_total same
    intro a left b right
    obtain ⟨r, here⟩ := given a left
    obtain ⟨q, there⟩ := given b right
    obtain ⟨m, rfl⟩ := settles r a here
    obtain ⟨n, rfl⟩ := settles q b there
    exact numericBefore_antisymm

end KeyOrder

namespace Bucketing

structure Discrete.Agrees (d other : Discrete) : Prop where
  values : ∀ key, other.histogram.get? key = d.histogram.get? key
  unmapped : other.unmappedRecords = d.unmappedRecords
  unmapped_value : other.unmappedValue = d.unmappedValue

variable {label : Record → Option String} {reduction : Reduction} {records others : List Record}

theorem Discrete.under_agrees {keys listed : List String}
    (nonneg : reduction.SumsNonNeg records) (same : records.Perm others)
    (rearranged : keys.Perm listed) :
    (Discrete.under keys label reduction records).Agrees
      (Discrete.under listed label reduction others) where
  values key := by
    simp only [under, Histogram.get?_keyed, rearranged.mem_iff,
      figure_filter_perm nonneg same]
  unmapped := by
    simp only [under, rearranged.mem_iff, same.countP_eq]
  unmapped_value := by
    simp only [under, rearranged.mem_iff, figure_filter_perm nonneg same]

theorem Discrete.under_perm (keys : List String)
    (nonneg : reduction.SumsNonNeg records) (same : records.Perm others) :
    Discrete.under keys label reduction others = Discrete.under keys label reduction records := by
  simp only [under, figure_filter_perm nonneg same, same.countP_eq]

theorem Discrete.get?_shown_under (keys : List String) (shown : Int64 → Bool) (key : String) :
    ((Discrete.under keys label reduction records).histogram.filter fun _ v => shown v).get? key =
      ((Discrete.under keys label reduction records).histogram.get? key).filter shown :=
  Histogram.get?_filter_keyed keys _ shown key

theorem Discrete.labels_shown_under (keys : List String) (shown : Int64 → Bool) :
    ((Discrete.under keys label reduction records).histogram.filter fun _ v => shown v).labels =
      keys.filter ((Discrete.under keys label reduction records).histogram.filter
        fun _ v => shown v).contains :=
  Histogram.labels_filter_keyed keys _ shown

theorem keys_discover_perm (same : records.Perm others)
    (order : KeyOrder) :
    (KeyTable.discover (records.map label) order).keys.toList.Perm
      (KeyTable.discover (others.map label) order).keys.toList := by
  rw [List.perm_ext_iff_of_nodup (KeyTable.discover_consistent _ order).distinct
    (KeyTable.discover_consistent _ order).distinct]
  intro key
  rw [KeyTable.mem_discover, KeyTable.mem_discover, (same.map label).mem_iff]

variable {pieces others : Cut Record}

theorem rangedOver_perm (nonneg : reduction.SumsNonNeg pieces.toList)
    (same : pieces.toList.Perm others.toList) (dimension : Record → Int64)
    (layout : RangedLayout) :
    ∃ h, rangedOver pieces dimension reduction layout = .ok h ∧
      rangedOver others dimension reduction layout = .ok h := by
  by_cases none_given : pieces.toList = []
  · have none_left : others.toList = [] := (none_given ▸ same).nil_eq.symm
    exact ⟨.empty, by simp [rangedOver, none_given], by simp [rangedOver, none_left]⟩
  · have some_left : others.toList ≠ [] := fun nothing => none_given (nothing ▸ same).eq_nil
    refine ⟨_, rangedOver_figures (reducesInOrder_of_nonneg nonneg) none_given dimension layout, ?_⟩
    rw [rangedOver_figures (reducesInOrder_of_nonneg (nonneg.perm same)) some_left]
    simp only [figure_filter_perm nonneg same]

theorem discreteOver_perm (nonneg : reduction.SumsNonNeg pieces.toList)
    (same : pieces.toList.Perm others.toList) (label : Record → Option String)
    (order : KeyOrder) :
    ∃ keys listed, keys.Perm listed ∧
      (order = .discovery → listed = (others.toList.filterMap label).eraseDups) ∧
      (order.Settles label → listed = keys) ∧
      discreteOver pieces label reduction order =
        .ok (.under keys label reduction pieces.toList) ∧
      discreteOver others label reduction order =
        .ok (.under listed label reduction others.toList) := by
  refine ⟨_, _, keys_discover_perm same order, ?_, ?_,
    discreteOver_under (reducesInOrder_of_nonneg nonneg) label order,
    discreteOver_under (reducesInOrder_of_nonneg (nonneg.perm same)) label order⟩
  · rintro rfl
    rw [KeyTable.keys_discover, List.filterMap_map]
    rfl
  · intro settles
    rw [KeyTable.keys_discover, KeyTable.keys_discover]
    refine (KeyOrder.arrange_of_settles settles (fun key member => ?_)
      (eraseDups_perm ((same.map label).filterMap id))).symm
    obtain ⟨r, -, here⟩ : ∃ r ∈ pieces.toList, label r = some key := by simpa using member
    exact ⟨r, here⟩

end Bucketing

namespace Scale

variable {pieces others : Cut Record} {reduction : Reduction}

def Settles : Scale → Prop
  | .ranges _ _ => True
  | .labels label order _ => order.Settles label

theorem histogramOver_perm (nonneg : reduction.SumsNonNeg pieces.toList)
    (same : pieces.toList.Perm others.toList) (scale : Scale) :
    ∃ h other, scale.histogramOver pieces reduction = .ok h ∧
      scale.histogramOver others reduction = .ok other ∧
      (∀ label, other.get? label = h.get? label) ∧
      (scale.Settles → other = h) ∧
      ∀ label shown, scale = .labels label .discovery shown →
        other.labels = (others.toList.filterMap label).eraseDups.filter h.contains := by
  cases scale with
  | ranges layout dimension =>
    obtain ⟨h, here, there⟩ := Bucketing.rangedOver_perm nonneg same dimension layout
    exact ⟨h, h, here, there, fun _ => rfl, fun _ => rfl, fun label shown made => nomatch made⟩
  | labels label order shown =>
    obtain ⟨keys, listed, rearranged, first, settled, here, there⟩ :=
      Bucketing.discreteOver_perm nonneg same label order
    have agrees : (Bucketing.Discrete.under keys label reduction pieces.toList).Agrees
        (.under listed label reduction others.toList) :=
      Bucketing.Discrete.under_agrees nonneg same rearranged
    have values : ∀ key, ((Bucketing.Discrete.under listed label reduction
        others.toList).histogram.filter fun _ v => shown v).get? key =
          ((Bucketing.Discrete.under keys label reduction
            pieces.toList).histogram.filter fun _ v => shown v).get? key := by
      intro key
      rw [Bucketing.Discrete.get?_shown_under, Bucketing.Discrete.get?_shown_under, agrees.values]
    refine ⟨_, _, by rw [histogramOver, here]; rfl, by rw [histogramOver, there]; rfl, values,
      ?_, ?_⟩
    · intro settles
      rw [settled settles, Bucketing.Discrete.under_perm _ nonneg same]
    · intro label' shown' made
      cases made
      rw [Bucketing.Discrete.labels_shown_under, ← first rfl]
      apply List.filter_congr
      intro key _
      exact congrArg Option.isSome (values key)

end Scale

namespace Axis

def discovers : Axis → Option (Record → Option String)
  | .owner => some fun r => some r.user
  | .group => some fun r => some r.group
  | .parentDir level => some (ancestor? level)
  | .dirQuota => some fun r => if r.isDir then some r.path else none
  | _ => none

variable {release : Release} {now : Int64} {axis : Axis} {scale : Scale}

theorem scale_discovers {label : Record → Option String} (discovered : axis.discovers = some label)
    (scaled : axis.scale release now = .ok scale) :
    ∃ shown, scale = .labels label .discovery shown := by
  cases axis with
  | owner | group | parentDir | dirQuota =>
    obtain rfl := Option.some.inj discovered
    obtain rfl := Except.ok.inj scaled
    exact ⟨_, rfl⟩
  | _ => cases discovered

theorem scale_settles (undiscovered : axis.discovers = none)
    (scaled : axis.scale release now = .ok scale) : scale.Settles := by
  cases axis with
  | owner | group | parentDir | dirQuota => cases undiscovered
  | accessTime | modTime =>
    obtain ⟨found, dimension, rfl⟩ := age_eq_ok scaled
    trivial
  | diskspace | memory | fileSize | storageType | fileType =>
    obtain rfl := Except.ok.inj scaled
    trivial
  | replication transforms =>
    obtain rfl := Except.ok.inj scaled
    intro r key here
    exact ⟨_, (Option.some.inj here).symm⟩

end Axis

namespace Engine

theorem records_in_any_order (e : Engine) (pieces others : Cut Record) (reduction : Reduction)
    (same : pieces.toList.Perm others.toList) (nonneg : reduction.SumsNonNeg pieces.toList) :
    (∀ dimension layout, ∃ h,
      Bucketing.rangedOver pieces dimension reduction layout = .ok h ∧
      Bucketing.rangedOver others dimension reduction layout = .ok h) ∧
    (∀ label order, ∃ d other,
      Bucketing.discreteOver pieces label reduction order = .ok d ∧
      Bucketing.discreteOver others label reduction order = .ok other ∧ d.Agrees other ∧
      (order = .discovery →
        other.histogram.labels = (others.toList.filterMap label).eraseDups) ∧
      (order.Settles label → other = d)) ∧
    ∀ axis sum find scale, axis.scale e.release e.now = .ok scale →
      Reduction.request e.release sum find axis.transforms = .ok reduction →
      ∃ h other, e.histogramOver pieces axis sum find = .ok h ∧
        e.histogramOver others axis sum find = .ok other ∧
        (∀ label, other.get? label = h.get? label) ∧
        match axis.discovers with
        | none => other = h
        | some label =>
          other.labels = (others.toList.filterMap label).eraseDups.filter h.contains := by
  refine ⟨Bucketing.rangedOver_perm nonneg same, fun label order => ?_, ?_⟩
  · obtain ⟨keys, listed, rearranged, first, settled, here, there⟩ :=
      Bucketing.discreteOver_perm nonneg same label order
    refine ⟨_, _, here, there, Bucketing.Discrete.under_agrees nonneg same rearranged, ?_, ?_⟩
    · intro discovery
      rw [Bucketing.Discrete.under, Histogram.labels_keyed, first discovery]
    · intro settles
      rw [settled settles, Bucketing.Discrete.under_perm _ nonneg same]
  · intro axis sum find scale scaled requested
    have asked := e.histogramOver_of_request scaled requested
    obtain ⟨h, other, here, there, values, settled, listed⟩ :=
      Scale.histogramOver_perm nonneg same scale
    refine ⟨h, other, (asked pieces).trans here, (asked others).trans there, values, ?_⟩
    cases discovered : axis.discovers with
    | none => exact settled (Axis.scale_settles discovered scaled)
    | some label =>
      obtain ⟨shown, made⟩ := Axis.scale_discovers discovered scaled
      exact listed label shown made

def owned (user : String) (size : Int64) : Record :=
  { Record.file size "/a" (.of size 3 1) with user := user }

theorem records_in_any_order_of_two_owners :
    let pieces : Cut Record := .run [owned "x" 5, owned "y" 7, owned "x" 2]
    let others : Cut Record := .join (.run [owned "y" 7]) (.run [owned "x" 2, owned "x" 5])
    let reduction := Reduction.sum fun r => Aggregation.fileSize.contribution r
    pieces.toList.Perm others.toList ∧ reduction.SumsNonNeg pieces.toList ∧
      Reduction.request .standard "fileSize" none [] = .ok reduction ∧
      (∃ d, Bucketing.discreteOver others (fun r => some r.user) reduction .discovery = .ok d ∧
        d.histogram.labels = ["y", "x"]) ∧
      ∃ h, bare.histogramOver pieces (.replication []) "fileSize" none = .ok h ∧
        bare.histogramOver others (.replication []) "fileSize" none = .ok h := by
  intro pieces others reduction
  have same : pieces.toList.Perm others.toList := by decide
  have nonneg : reduction.SumsNonNeg pieces.toList := fun _ => by decide
  have requested : Reduction.request .standard "fileSize" none [] = .ok reduction := rfl
  obtain ⟨-, labelled, axes⟩ := records_in_any_order bare pieces others reduction same nonneg
  obtain ⟨-, d, -, found, -, first, -⟩ := labelled (fun r => some r.user) .discovery
  obtain ⟨h, other, here, there, -, settled⟩ :=
    axes (.replication []) "fileSize" none _ rfl requested
  obtain rfl : other = h := settled
  exact ⟨same, nonneg, requested, ⟨d, found, (first rfl).trans (by decide)⟩, other, here, there⟩

end Engine

end Census
