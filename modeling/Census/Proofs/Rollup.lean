import Census.Proofs.Ancestors
import Census.Proofs.Totals

set_option autoImplicit false

namespace Census

section Sums

variable {f : Record → Int64} {records : List Record}

theorem satSum_parts {κ : Type} [DecidableEq κ] (place : Record → Option κ) {keys : List κ}
    (distinct : keys.Nodup) (nonneg : ∀ r ∈ records, 0 ≤ (f r).toInt) :
    satSum (keys.map fun key => satSum ((records.filter (place · = some key)).map f)) =
      satSum ((records.filter fun r => ∃ key ∈ keys, place r = some key).map f) := by
  apply Int64.toInt_inj.mp
  rw [toInt_satSum_parts place f distinct nonneg,
    toInt_satSum_of_nonneg (nonNeg_map_filter nonneg _)]

end Sums

namespace Subset

variable {s : Subset} {level : Nat} {label : String} {f : Record → Int64}

def directories (s : Subset) (level : Nat) : List String :=
  (KeyTable.discover (s.records.map (·.ancestor? level)) .discovery).keys.toList

def byDirectory (s : Subset) (level : Nat) (f : Record → Int64) : Histogram Int64 :=
  .ofEntries ((directories s level).map fun label =>
    (label, satSum ((s.records.filter (·.ancestor? level = some label)).map f)))

theorem nodup_directories (s : Subset) (level : Nat) : (s.directories level).Nodup :=
  (KeyTable.discover_consistent _ .discovery).distinct

theorem mem_directories :
    label ∈ s.directories level ↔ ∃ r ∈ s.records, r.ancestor? level = some label := by
  rw [directories, KeyTable.mem_discover]
  simp

theorem labels_byDirectory : (s.byDirectory level f).labels = s.directories level := by
  simp [Histogram.labels, byDirectory, Histogram.ofEntries, Function.comp_def]

section Normalized

variable (normalized : ∀ r ∈ s.records, Path.Normalized r.path)
include normalized

theorem mem_directories_iff :
    label ∈ s.directories level ↔ Path.Normalized label ∧ Path.depth label = level ∧
      ∃ r ∈ s.records, Path.isBelow r.path label = true := by
  rw [mem_directories]
  constructor
  · rintro ⟨r, member, above⟩
    obtain ⟨named, depth, below⟩ := (Path.ancestor?_eq_some_iff (normalized r member)).mp above
    exact ⟨named, depth, r, member, below⟩
  · rintro ⟨named, depth, r, member, below⟩
    exact ⟨r, member, (Path.ancestor?_eq_some_iff (normalized r member)).mpr ⟨named, depth, below⟩⟩

theorem get?_byDirectory (listed : label ∈ s.directories level) :
    (s.byDirectory level f).get? label =
      some (satSum ((s.records.filter (Path.isBelow ·.path label)).map f)) := by
  obtain ⟨named, rfl, -⟩ := (mem_directories_iff normalized).mp listed
  have same : s.records.filter (·.ancestor? (Path.depth label) = some label) =
      s.records.filter (Path.isBelow ·.path label) := by
    apply List.filter_congr
    intro r member
    rw [Record.ancestor?, Bool.eq_iff_iff, decide_eq_true_eq,
      Path.ancestor?_eq_some_iff (normalized r member), and_iff_right named, and_iff_right rfl]
  rw [byDirectory, Histogram.get?_ofEntries, Histogram.lookup_map_self, if_pos listed, same]

theorem below_iff_in_directories (named : Path.Normalized label) {r : Record}
    (member : r ∈ s.records) :
    Path.isBelow r.path label = true ↔ r.parent? = some label ∨
      ∃ child ∈ (s.directories (Path.depth label + 1)).filter (Path.parent? · = some label),
        r.ancestor? (Path.depth label + 1) = some child := by
  rw [Path.isBelow_iff_parent?_or (normalized r member) named]
  constructor
  · rintro (direct | ⟨child, above, inside⟩)
    · exact .inl direct
    · exact .inr ⟨child, List.mem_filter.mpr
        ⟨mem_directories.mpr ⟨r, member, above⟩, decide_eq_true inside⟩, above⟩
  · rintro (direct | ⟨child, listed, above⟩)
    · exact .inl direct
    · exact .inr ⟨child, above, of_decide_eq_true (List.mem_filter.mp listed).2⟩

theorem byDirectory_rolls_up (nonneg : ∀ r ∈ s.records, 0 ≤ (f r).toInt)
    (named : Path.Normalized label) :
    satSum ((s.records.filter (Path.isBelow ·.path label)).map f) =
      satAdd
        (satSum (((s.byDirectory (Path.depth label + 1) f).entries.filter
          (Path.parent? ·.1 = some label)).map Prod.snd))
        (satSum ((s.records.filter (·.parent? = some label)).map f)) := by
  have buckets : ((s.byDirectory (Path.depth label + 1) f).entries.filter
      (Path.parent? ·.1 = some label)).map Prod.snd =
        ((s.directories (Path.depth label + 1)).filter (Path.parent? · = some label)).map
          fun child => satSum ((s.records.filter
            (·.ancestor? (Path.depth label + 1) = some child)).map f) := by
    rw [byDirectory, Histogram.ofEntries, List.filter_map, List.map_map]
    rfl
  rw [buckets, satSum_parts (·.ancestor? (Path.depth label + 1))
    ((nodup_directories s _).filter _) nonneg, ← satSum_filter_or _ nonneg]
  · congr 2
    apply List.filter_congr
    intro r member
    rw [Bool.eq_iff_iff, below_iff_in_directories normalized named member, or_comm, Bool.or_eq_true,
      decide_eq_true_eq, decide_eq_true_eq]
  · -- What lies right in the directory is too shallow to lie below one of those in it.
    intro r member above
    obtain ⟨child, -, here⟩ := of_decide_eq_true above
    refine decide_eq_false fun direct => ?_
    have nowhere := Path.ancestor?_eq_none_of_parent? (normalized r member) direct
    cases nowhere.symm.trans here

end Normalized

end Subset

namespace Engine

theorem histogram_parentDir (e : Engine) {s : Subset} {name : String} {a : Aggregation}
    (resolved : Aggregation.resolve name = .ok a)
    (nonneg : ∀ r ∈ s.records, 0 ≤ (a.contribution r).toInt) {level : Int64} (fromRoot : 0 ≤ level) :
    e.histogram s (.parentDir level) name none =
      .ok (s.byDirectory level.toInt.toNat a.contribution) := by
  have same : Axis.ancestor? level = fun r : Record => r.ancestor? level.toInt.toNat :=
    funext fun r => if_neg (Int64.not_lt.mpr fromRoot)
  have whole : (e.fanout.halves s.records).toList = s.records := e.fanout.toList_halves _
  rw [← whole] at nonneg
  obtain ⟨d, summed, buckets⟩ :=
    Bucketing.discreteOver_sum (Bucketing.sumsInOrder_of_nonneg nonneg) (Axis.ancestor? level)
      .discovery
  rw [whole, same] at buckets
  rw [histogram, e.histogramOver_sum rfl rfl resolved rfl, Scale.histogramOver, summed]
  exact congrArg Except.ok ((Histogram.filter_all _).trans buckets)

theorem ancestors_roll_up (e : Engine) (s : Subset) (name : String) (a : Aggregation)
    (resolved : Aggregation.resolve name = .ok a)
    (normalized : ∀ r ∈ s.records, Path.Normalized r.path)
    (nonneg : ∀ r ∈ s.records, 0 ≤ (a.contribution r).toInt) (level : Int64)
    (fromRoot : 0 ≤ level) :
    ∃ h, e.histogram s (.parentDir level) name none = .ok h ∧ h.labels.Nodup ∧
      (∀ label, label ∈ h.labels ↔ Path.Normalized label ∧ Path.depth label = level.toInt ∧
        ∃ r ∈ s.records, Path.isBelow r.path label = true) ∧
      (∀ label ∈ h.labels, h.get? label =
          some (satSum ((s.records.filter (Path.isBelow ·.path label)).map a.contribution)) ∧
        ∀ r ∈ s.records, r.path = label ∨ r.path = "/" → Path.isBelow r.path label = false) ∧
      ∀ next : Int64, next.toInt = level.toInt + 1 →
        ∃ deeper, e.histogram s (.parentDir next) name none = .ok deeper ∧
          ∀ label ∈ h.labels, h.get? label = some (satAdd
            (satSum ((deeper.entries.filter (Path.parent? ·.1 = some label)).map Prod.snd))
            (satSum ((s.records.filter (·.parent? = some label)).map a.contribution))) := by
  have above : 0 ≤ level.toInt := Int64.le_iff_toInt_le.mp fromRoot
  have depth_iff (label : String) :
      (Path.depth label : Int) = level.toInt ↔ Path.depth label = level.toInt.toNat := by omega
  refine ⟨_, histogram_parentDir e resolved nonneg fromRoot, ?_⟩
  rw [Subset.labels_byDirectory]
  refine ⟨s.nodup_directories _, ?_, fun label listed => ⟨?_, ?_⟩, ?_⟩
  · intro label
    rw [depth_iff, Subset.mem_directories_iff normalized]
  · exact Subset.get?_byDirectory normalized listed
  · rintro r - (rfl | root)
    · exact Path.not_isBelow_self r.path
    · rw [root, Path.not_root_isBelow]
  · intro next successor
    have further : (0 : Int64) ≤ next := by
      rw [Int64.le_iff_toInt_le, successor]
      exact Int.le_add_one above
    refine ⟨_, histogram_parentDir e resolved nonneg further, fun label listed => ?_⟩
    obtain ⟨named, depth, -⟩ := (Subset.mem_directories_iff normalized).mp listed
    have same : next.toInt.toNat = Path.depth label + 1 := by omega
    rw [Subset.get?_byDirectory normalized listed,
      Subset.byDirectory_rolls_up normalized nonneg named, same]

def nested : Subset where
  records :=
    [.directory 1 "/" {}, .directory 2 "/a" {}, .file 3 "/a/b/c" (.of Int64.maxValue 1 1),
      .file 4 "/a/d" (.of 5 1 1), .directory 5 "/a/b" {}, .file 6 "/e" (.of 7 1 1)]

theorem ancestors_roll_up_past_the_words :
    ∃ h deeper, bare.histogram nested (.parentDir 1) "fileSize" none = .ok h ∧
      bare.histogram nested (.parentDir 2) "fileSize" none = .ok deeper ∧
      h.get? "/a" = some Int64.maxValue ∧ h.get? "/a" = some (satAdd
        (satSum ((deeper.entries.filter (Path.parent? ·.1 = some "/a")).map Prod.snd)) 5) := by
  obtain ⟨h, found, -, listed, below, further⟩ := ancestors_roll_up bare nested "fileSize" .fileSize
    rfl (by decide) (by decide) 1 (by decide)
  obtain ⟨deeper, beneath, parts⟩ := further 2 (by decide)
  have member : "/a" ∈ h.labels := (listed "/a").mpr (by decide)
  exact ⟨h, deeper, found, beneath, (below "/a" member).1, parts "/a" member⟩

end Engine

end Census
