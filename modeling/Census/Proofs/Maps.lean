import Mathlib.Data.List.Perm.Basic
import Census.Proofs.Edits
import Census.Proofs.Totals

set_option autoImplicit false

namespace Census

namespace Histogram

variable {β : Type}

structure IsMap (h : Histogram β) : Prop where
  distinct : h.labels.Nodup
  finds : ∀ entry ∈ h.entries, h.get? entry.1 = some entry.2
  removes : ∀ label ∈ h.labels, label ∉ (h.erase label).labels ∧
    (h.erase label).contains label = false ∧ (h.erase label).size + 1 = h.size

theorem contains_erase_self (h : Histogram β) (label : String) :
    (h.erase label).contains label = false := by
  unfold contains get? erase
  cases found : h.positions[label]? with
  | none => simp [found]
  | some position => simp

theorem Follows.isMap {h : Histogram β} {entries : Entries β} (follows : h.Follows entries) :
    h.IsMap where
  distinct := follows.tells.labels ▸ follows.distinct
  finds := by
    rw [follows.same]
    intro entry member
    obtain ⟨i, found⟩ := List.mem_iff_getElem?.mp member
    have here : entries.labels[i]? = some entry.1 := by
      rw [Entries.labels, List.getElem?_map, found, Option.map_some]
    rw [follows.get?, Entries.lookup_eq_at follows.distinct here, found, Option.map_some]
  removes := by
    rw [follows.tells.labels]
    intro label member
    obtain ⟨i, here⟩ := List.mem_iff_getElem?.mp member
    have inside : i < entries.length := by
      simpa [Entries.labels] using (List.getElem?_eq_some_iff.mp here).1
    have erased := follows.erase label
    refine ⟨?_, contains_erase_self h label, ?_⟩
    · rw [erased.tells.labels]
      simp [Entries.labels, Entries.without]
    · rw [erased.tells.size, follows.tells.size, Entries.without_eq_eraseIdx follows.distinct here,
        List.length_eraseIdx_of_lt inside]
      omega

theorem ofEntries_isMap_iff {entries : Entries β} :
    (ofEntries entries).IsMap ↔ entries.labels.Nodup :=
  ⟨fun map => map.distinct, fun distinct => (ofEntries_follows distinct).isMap⟩

theorem labels_erase_ofEntries {entries : Entries β} {label : String}
    (member : label ∈ entries.labels) :
    (label :: ((ofEntries entries).erase label).labels).Perm entries.labels := by
  obtain ⟨i, found⟩ : ∃ i, entries.findIdx? (·.1 == label) = some i := by
    obtain ⟨entry, inside, same⟩ := List.mem_map.mp member
    rw [← Option.isSome_iff_exists, List.findIdx?_isSome, List.any_eq_true]
    exact ⟨entry, inside, beq_iff_eq.mpr same⟩
  obtain ⟨inside, here, -⟩ := List.findIdx?_eq_some_iff_getElem.mp found
  have place : (ofEntries entries).positions[label]? = some i := by
    rw [ofEntries, getElem?_locate, found]
  have left : ((ofEntries entries).erase label).labels = entries.labels.eraseIdx i := by
    rw [erase]
    simp only [place]
    exact (List.eraseIdx_map _ _ _).symm
  have labelled : i < entries.labels.length := by simpa [Entries.labels] using inside
  have first : entries.labels[i] = label := by simpa [Entries.labels] using here
  rw [left, ← first]
  exact List.getElem_cons_eraseIdx_perm labelled

end Histogram

namespace Bucketing

theorem rangedOver_succeeds {pieces : Cut Record} (some_given : pieces.toList ≠ [])
    (dimension : Record → Int64) (reduction : Reduction) (layout : RangedLayout) :
    ∃ entries : Entries Int64,
      rangedOver pieces dimension reduction layout = .ok (.ofEntries entries) ∧
        entries.labels = layout.labels := by
  obtain ⟨values, reduced, length⟩ := reduceBuckets_succeeds reduction.mode layout.size
    (pieces.map fun r => (layout.bucketOf (dimension r), reduction.value r))
  exact ⟨_, rangedOver_of_values some_given reduced,
    List.map_fst_zip (Nat.le_of_eq length.symm)⟩

theorem rangedOver_isMap (pieces : Cut Record) (dimension : Record → Int64)
    (reduction : Reduction) {layout : RangedLayout} (distinct : layout.labels.Nodup) :
    ∃ h, rangedOver pieces dimension reduction layout = .ok h ∧ h.IsMap := by
  by_cases none_given : pieces.toList = []
  · exact ⟨.empty, by simp [rangedOver, none_given], Histogram.empty_follows.isMap⟩
  · obtain ⟨entries, found, labels⟩ := rangedOver_succeeds none_given dimension reduction layout
    exact ⟨_, found, Histogram.ofEntries_isMap_iff.mpr (labels ▸ distinct)⟩

theorem discreteOver_isMap (pieces : Cut Record) (label : Record → Option String)
    (reduction : Reduction) (order : KeyOrder) (shown : Int64 → Bool) :
    ∃ d, discreteOver pieces label reduction order = .ok d ∧
      (d.histogram.filter fun _ value => shown value).IsMap := by
  by_cases none_given : pieces.toList = []
  · exact ⟨⟨.empty, 0, 0⟩, by simp [discreteOver, none_given],
      (Histogram.empty_follows.filter _).isMap⟩
  · generalize discovered : KeyTable.discover (pieces.toList.map label) order = table
    obtain ⟨values, reduced, length⟩ := reduceBuckets_succeeds reduction.mode table.cardinality
      (pieces.map fun r => (table.idOf (label r), reduction.value r))
    have consistent : table.Consistent := discovered ▸ KeyTable.discover_consistent _ order
    -- The last value belongs to no key.
    have enough : table.keys.toList.length ≤ values.length := by
      rw [length, KeyTable.cardinality, Array.length_toList]
      exact Nat.le_succ _
    have distinct : Entries.labels (table.keys.toList.zip values) |>.Nodup := by
      rw [Entries.labels, List.map_fst_zip enough]
      exact consistent.distinct
    exact ⟨_, discreteOver_of_values none_given discovered reduced,
      ((Histogram.ofEntries_follows distinct).filter _).isMap⟩

end Bucketing

theorem RangedLayout.nodup_labels_predefined :
    spaceSize.labels.Nodup ∧ memorySize.labels.Nodup ∧
      ∀ range : TimeRange, range.layout.labels.Nodup := by
  refine ⟨by decide, by decide, ?_⟩
  intro range
  cases range <;> decide

theorem Axis.nodup_labels_of_scale {release : Release} {now : Int64} {axis : Axis}
    {layout : RangedLayout} {dimension : Record → Int64}
    (scaled : axis.scale release now = .ok (.ranges layout dimension)) : layout.labels.Nodup := by
  obtain ⟨space, memory, ages⟩ := RangedLayout.nodup_labels_predefined
  cases axis with
  | accessTime | modTime =>
    obtain ⟨range, _, same⟩ := age_eq_ok scaled
    obtain ⟨rfl, -⟩ := Scale.ranges.inj same
    exact ages range
  | memory =>
    obtain ⟨rfl, -⟩ := Scale.ranges.inj (Except.ok.inj scaled)
    exact memory
  | diskspace | fileSize =>
    obtain ⟨rfl, -⟩ := Scale.ranges.inj (Except.ok.inj scaled)
    exact space
  | replication | storageType | owner | group | parentDir | fileType | dirQuota =>
    cases Except.ok.inj scaled

theorem Engine.histogram_isMap {e : Engine} {s : Subset} {axis : Axis} {sum : String}
    {find : Option String} {h : Histogram Int64}
    (found : e.histogram s axis sum find = .ok h) : h.IsMap := by
  unfold histogram histogramOver at found
  cases scaled : axis.scale e.release e.now with
  | error fault => simp [scaled, bind, Except.bind] at found
  | ok scale =>
    cases requested : Reduction.request e.release sum find axis.transforms with
    | error fault => simp [scaled, requested, bind, Except.bind] at found
    | ok reduction =>
      simp only [scaled, requested, bind, Except.bind] at found
      cases scale with
      | ranges layout dimension =>
        obtain ⟨_, made, map⟩ := Bucketing.rangedOver_isMap (e.fanout.halves s.records) dimension
          reduction (Axis.nodup_labels_of_scale scaled)
        exact Except.ok.inj (made.symm.trans found) ▸ map
      | labels label order shown =>
        obtain ⟨d, made, map⟩ := Bucketing.discreteOver_isMap (e.fanout.halves s.records) label
          reduction order shown
        simp only [Scale.histogramOver, made, bind, Except.bind, pure, Except.pure] at found
        exact Except.ok.inj found ▸ map

namespace Bucketing

theorem ranged_isMap_iff (fanout : Fanout) (s : Subset) (dimension : Record → Int64)
    (reduction : Reduction) (given : s.records ≠ []) :
    (∀ layout : RangedLayout, ∃ h, ranged fanout s dimension reduction layout = .ok h ∧
      h.labels = layout.labels ∧ (h.IsMap ↔ layout.labels.Nodup) ∧
      ∀ label ∈ layout.labels, (label :: (h.erase label).labels).Perm layout.labels ∧
        (h.erase label).contains label = false) ∧
    RangedLayout.spaceSize.labels.Nodup ∧ RangedLayout.memorySize.labels.Nodup ∧
      ∀ range : TimeRange, range.layout.labels.Nodup := by
  refine ⟨?_, RangedLayout.nodup_labels_predefined⟩
  intro layout
  have some_given : (fanout.halves s.records).toList ≠ [] := by rwa [fanout.toList_halves]
  obtain ⟨entries, found, labels⟩ := rangedOver_succeeds some_given dimension reduction layout
  rw [← labels]
  exact ⟨_, found, rfl, Histogram.ofEntries_isMap_iff, fun label member =>
    ⟨Histogram.labels_erase_ofEntries member, Histogram.contains_erase_self _ label⟩⟩

def lone : Subset where
  records := [.file 1 "/a" (.of 5 1 1)]

theorem ranged_isMap_iff_of_lone :
    lone.records ≠ [] ∧ ∃ h, ranged ⟨0, 64⟩ lone Record.fileSize (.sum fun _ => 1) .spaceSize = .ok h ∧
      h.labels = RangedLayout.spaceSize.labels ∧ h.IsMap := by
  have given : lone.records ≠ [] := by decide
  obtain ⟨every, space, -⟩ :=
    ranged_isMap_iff ⟨0, 64⟩ lone Record.fileSize (.sum fun _ => 1) given
  obtain ⟨h, found, labels, map, -⟩ := every .spaceSize
  exact ⟨given, h, found, labels, map.mpr space⟩

theorem ranged_of_repeated_labels :
    ∃ layout h, RangedLayout.of [0] ["a", "a"] = .ok layout ∧
      ranged ⟨0, 64⟩ lone Record.fileSize (.sum fun _ => 1) layout = .ok h ∧
      h.entries = [("a", 0), ("a", 1)] ∧ h.get? "a" = some 0 ∧
      "a" ∈ (h.erase "a").labels ∧ (h.erase "a").contains "a" = false ∧ ¬ h.IsMap := by
  refine ⟨⟨[0], ["a", "a"], rfl, rfl⟩, .ofEntries [("a", 0), ("a", 1)], rfl, rfl, rfl,
    Histogram.get?_ofEntries _ _, ?_, Histogram.contains_erase_self _ _, ?_⟩
  · have member : "a" ∈ Entries.labels [("a", (0 : Int64)), ("a", 1)] := by decide
    have left := Histogram.labels_erase_ofEntries member
    exact (left.trans (.refl ["a", "a"])).cons_inv.mem_iff.mpr (by decide)
  · rw [Histogram.ofEntries_isMap_iff]
    decide

end Bucketing

end Census
