import Census.Proofs.Discovery
import Census.Proofs.Totals

set_option autoImplicit false

namespace Census

def Reduction.under (reduction : Reduction) (label : Record → Option String)
    (records : List Record) (key : String) : Int64 :=
  figure reduction.mode ((records.filter fun r => label r = some key).map reduction.value)

structure Histogram.ShowsLabels (h : Histogram Int64) (label : Record → Option String)
    (order : KeyOrder) (shown : Int64 → Bool) (reduction : Reduction) (records : List Record)
    (keys : List String) : Prop where
  ordered : order.Arranges (records.filterMap label).eraseDups keys
  distinct : keys.Nodup
  labels : h.labels = keys.filter fun key => shown (reduction.under label records key)
  values : ∀ key ∈ h.labels, h.get? key = some (reduction.under label records key)

section Shown

variable {label : Record → Option String} {order : KeyOrder} {shown : Int64 → Bool}
  {reduction : Reduction}

theorem Bucketing.Discrete.under_showsLabels {records : List Record} {keys : List String}
    (ordered : order.Arranges (records.filterMap label).eraseDups keys) (distinct : keys.Nodup) :
    ((Discrete.under keys label reduction records).histogram.filter fun _ v => shown v).ShowsLabels
      label order shown reduction records keys := by
  have kept : (Discrete.under keys label reduction records).histogram.filter (fun _ v => shown v) =
      .ofEntries ((keys.filter fun key => shown (reduction.under label records key)).map
        fun key => (key, reduction.under label records key)) :=
    Histogram.filter_keyed keys _ shown
  rw [kept]
  refine ⟨ordered, distinct, Histogram.labels_keyed _ _, fun key member => ?_⟩
  rw [Histogram.labels_keyed] at member
  rw [Histogram.get?_keyed, if_pos member]

theorem Scale.labels_showsLabels {pieces : Cut Record}
    (inOrder : Bucketing.ReducesInOrder pieces reduction) :
    ∃ h keys, (Scale.labels label order shown).histogramOver pieces reduction = .ok h ∧
      h.ShowsLabels label order shown reduction pieces.toList keys := by
  refine ⟨_, _, by rw [histogramOver, Bucketing.discreteOver_under inOrder]; rfl,
    Bucketing.Discrete.under_showsLabels ?_ (KeyTable.discover_consistent _ order).distinct⟩
  rw [KeyTable.keys_discover, List.filterMap_map]
  exact order.arrange_arranges (KeyTable.nodup_eraseDups _)

end Shown

theorem Engine.histogramOver_showsLabels (e : Engine) {pieces : Cut Record} (axis : Axis)
    {sum : String} {find : Option String} {label : Record → Option String} {order : KeyOrder}
    {shown : Int64 → Bool} {reduction : Reduction}
    (scaled : axis.scale e.release e.now = .ok (.labels label order shown))
    (requested : Reduction.request e.release sum find axis.transforms = .ok reduction)
    (inOrder : Bucketing.ReducesInOrder pieces reduction) :
    ∃ h keys, e.histogramOver pieces axis sum find = .ok h ∧
      h.ShowsLabels label order shown reduction pieces.toList keys := by
  rw [e.histogramOver_of_request scaled requested]
  exact Scale.labels_showsLabels inOrder

theorem Engine.histogram_showsLabels (e : Engine) {s : Subset} (axis : Axis) {sum : String}
    {find : Option String} {label : Record → Option String} {order : KeyOrder}
    {shown : Int64 → Bool} {reduction : Reduction}
    (scaled : axis.scale e.release e.now = .ok (.labels label order shown))
    (requested : Reduction.request e.release sum find axis.transforms = .ok reduction)
    (sequential : e.fanout.spreads s.size = false) :
    ∃ h keys, e.histogram s axis sum find = .ok h ∧
      h.ShowsLabels label order shown reduction s.records keys := by
  have whole : e.fanout.halves s.records = .run s.records := Fanout.halves_of_sequential sequential
  rw [histogram, whole]
  exact e.histogramOver_showsLabels axis scaled requested
    (Bucketing.reducesInOrder_run s.records reduction)

namespace Release

variable {release : Release} {r : Record}

theorem policyLabel?_eq_some_iff {label : String} :
    release.policyLabel? r = some label ↔
      ∃ before after, release.policies = before ++ (release.storagePolicy r, label) :: after ∧
        ∀ entry ∈ before, entry.1 ≠ release.storagePolicy r := by
  simp only [policyLabel?, List.lookup_eq_some_iff, bne_iff_ne, ne_comm]

theorem policyLabel?_eq_none_iff :
    release.policyLabel? r = none ↔
      ∀ entry ∈ release.policies, entry.1 ≠ release.storagePolicy r := by
  simp only [policyLabel?, List.lookup_eq_none_iff, bne_iff_ne, ne_comm]

end Release

namespace Engine

theorem storageType_follows_policies (e : Engine) (s : Subset) (sum : String)
    (find : Option String) {reduction : Reduction}
    (requested : Reduction.request e.release sum find [] = .ok reduction)
    (sequential : e.fanout.spreads s.size = false) :
    (∀ r label, e.release.policyLabel? r = some label ↔
      ∃ before after, e.release.policies = before ++ (e.release.storagePolicy r, label) :: after ∧
        ∀ entry ∈ before, entry.1 ≠ e.release.storagePolicy r) ∧
    ∃ h, e.histogram s .storageType sum find = .ok h ∧
      h.labels.Nodup ∧ h.labels.Sublist (e.release.policies.map Prod.snd) ∧
      (∀ label, label ∈ h.labels ↔ ∃ r ∈ s.records, e.release.policyLabel? r = some label) ∧
      (∀ label ∈ h.labels, h.get? label =
        some (figure reduction.mode ((s.records.filter fun r =>
          e.release.policyLabel? r = some label).map reduction.value))) ∧
      ∀ r ∈ s.records, (∀ label ∈ h.labels, e.release.policyLabel? r ≠ some label) ↔
        ∀ entry ∈ e.release.policies, entry.1 ≠ e.release.storagePolicy r := by
  refine ⟨fun r label => Release.policyLabel?_eq_some_iff, ?_⟩
  obtain ⟨h, keys, found, shows⟩ := e.histogram_showsLabels .storageType rfl requested sequential
  obtain ⟨inTableOrder, present⟩ := shows.ordered
  have all_shown : h.labels = keys := shows.labels.trans (List.filter_true keys)
  have listed (label : String) :
      label ∈ h.labels ↔ ∃ r ∈ s.records, e.release.policyLabel? r = some label := by
    rw [all_shown, present, List.mem_eraseDups, List.mem_filterMap, and_iff_left_of_imp]
    rintro ⟨r, -, named⟩
    exact Release.policyLabel?_listed named
  refine ⟨h, found, all_shown ▸ shows.distinct, all_shown ▸ inTableOrder, listed, shows.values, ?_⟩
  intro r member
  rw [← Release.policyLabel?_eq_none_iff, Option.eq_none_iff_forall_ne_some]
  constructor
  next =>
    intro left_out label named
    exact left_out label ((listed label).mpr ⟨r, member, named⟩) named
  next =>
    intro nameless label _
    exact nameless label

/-- A code has two labels, and two codes have one label. -/
def reusedPolicies : Release :=
  .rescaled "reused" 0 1 [(1, "HOT"), (2, "COLD"), (1, "WARM"), (3, "HOT")]

def stored : Subset where
  records :=
    [{ Record.file 1 "/a" (.of 5 1 1) with storagePolicy := 1 },
      { Record.file 2 "/b" (.of 6 1 1) with storagePolicy := 2 },
      { Record.file 3 "/c" (.of 7 1 1) with storagePolicy := 3 },
      { Record.file 4 "/d" (.of 8 1 1) with storagePolicy := 4 }]

theorem storageType_follows_policies_of_reused :
    let e : Engine := { bare with release := reusedPolicies }
    Reduction.request e.release "fileSize" none [] =
        .ok (.sum fun r => Aggregation.fileSize.contribution r) ∧
      e.fanout.spreads stored.size = false ∧
      ∃ h, e.histogram stored .storageType "fileSize" none = .ok h ∧
        h.labels.Sublist ["HOT", "COLD", "WARM", "HOT"] ∧ "WARM" ∉ h.labels ∧
        h.get? "HOT" = some 12 := by
  intro e
  have requested : Reduction.request e.release "fileSize" none [] =
      .ok (.sum fun r => Aggregation.fileSize.contribution r) := rfl
  have sequential : e.fanout.spreads stored.size = false := by decide
  obtain ⟨-, h, found, -, inTableOrder, listed, values, -⟩ :=
    storageType_follows_policies e stored "fileSize" none requested sequential
  have hot : "HOT" ∈ h.labels := (listed "HOT").mpr (by decide)
  exact ⟨requested, sequential, h, found, inTableOrder, mt (listed "WARM").mp (by decide),
    (values "HOT" hot).trans (by decide)⟩

end Engine

end Census
