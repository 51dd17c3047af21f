import Census.Proofs.Ancestors
import Census.Proofs.LabelledAxes
import Census.Proofs.Maps

set_option autoImplicit false

namespace Census

/-- The record has the name that its path ends in, as a record has that is built from a path. -/
def Record.NamedByPath (r : Record) : Prop :=
  r.name = Path.name r.path

theorem Record.file_namedByPath (id : Int64) (path : String) (attrs : FileAttrs) :
    (file id path attrs).NamedByPath :=
  rfl

theorem Record.directory_namedByPath (id : Int64) (path : String) (attrs : DirAttrs) :
    (directory id path attrs).NamedByPath :=
  rfl

namespace FileType

def Splits (name stem extension : List Char) : Prop :=
  name = stem ++ '.' :: extension ∧ stem ≠ [] ∧ extension ≠ [] ∧ '.' ∉ extension

def Owns (label extension : String) : Prop :=
  ∃ extensions, (label, extensions) ∈ table ∧ extension ∈ extensions

inductive Typed (last : Option (List Char)) : String → Prop where
  | owned {name stem extension : List Char} {label : String} (here : last = some name)
    (splits : Splits name stem extension)
    (owns : Owns label (Text.lowered (String.ofList extension))) : Typed last label
  | foreign {name stem extension : List Char} (here : last = some name)
    (splits : Splits name stem extension)
    (unowned : ∀ label, ¬Owns label (Text.lowered (String.ofList extension))) : Typed last other
  | whole (unsplit : ∀ name, last = some name → ∀ stem extension, ¬Splits name stem extension) :
    Typed last other

section Split

variable {name stem extension : List Char}

theorem extension?_of_last_dot (stem : List Char) (clean : '.' ∉ extension) :
    extension? (String.ofList (stem ++ '.' :: extension)) =
      if stem = [] ∨ extension = [] then none else some (String.ofList extension) := by
  simp only [extension?, String.toList_ofList, Path.takeWhile_reverse_last_mark stem clean,
    Path.dropWhile_reverse_last_mark stem clean]
  have backwards : extension = extension.reverse.reverse := (List.reverse_reverse _).symm
  cases after : extension.reverse with
  | nil => simp [List.reverse_eq_nil_iff.mp after]
  | cons last others =>
    rw [after] at backwards
    cases before : stem.reverse with
    | nil => simp [List.reverse_eq_nil_iff.mp before]
    | cons c cs =>
      have some_before : stem ≠ [] := fun none_left => by simp [none_left] at before
      simp [some_before, backwards]

theorem extension?_eq_some_iff {text : String} :
    extension? (String.ofList name) = some text ↔
      ∃ stem extension, Splits name stem extension ∧ String.ofList extension = text := by
  constructor
  next =>
    intro found
    by_cases dot : '.' ∈ name
    next =>
      have ⟨stem, extension, shape, clean⟩ := Path.exists_last_mark dot
      rw [shape, extension?_of_last_dot stem clean, Option.ite_none_left_eq_some, not_or,
        Option.some.injEq] at found
      exact ⟨stem, extension, ⟨shape, found.1.1, found.1.2, clean⟩, found.2⟩
    next =>
      have none_left : name.reverse.dropWhile (· ≠ '.') = [] :=
        List.dropWhile_eq_nil_iff.mpr (Path.forall_reverse_ne dot)
      simp only [extension?, String.toList_ofList, none_left] at found
      split at found <;> simp_all
  next =>
    intro ⟨stem, extension, ⟨shape, some_before, some_after, clean⟩, same⟩
    rw [shape, extension?_of_last_dot stem clean, if_neg (by simp [some_before, some_after]), same]

theorem not_splits_iff :
    (∀ stem extension, ¬Splits name stem extension) ↔
      '.' ∉ name ∨ (∃ rest, name = '.' :: rest ∧ '.' ∉ rest) ∨ ∃ stem, name = stem ++ ['.'] := by
  constructor
  next =>
    intro unsplit
    by_cases dot : '.' ∈ name
    next =>
      have ⟨stem, extension, shape, clean⟩ := Path.exists_last_mark dot
      have empty : stem = [] ∨ extension = [] := by
        by_contra some_left
        simp only [not_or] at some_left
        exact unsplit stem extension ⟨shape, some_left.1, some_left.2, clean⟩
      cases empty with
      | inl leading => exact .inr (.inl ⟨extension, by simp [shape, leading], clean⟩)
      | inr trailing => exact .inr (.inr ⟨stem, by simp [shape, trailing]⟩)
    next => exact .inl dot
  next =>
    intro shapes stem extension ⟨shape, some_before, some_after, clean⟩
    rcases shapes with dotless | ⟨rest, leading, later⟩ | ⟨before, trailing⟩
    next => exact dotless (by simp [shape])
    next =>
      cases stem with
      | nil => exact some_before rfl
      | cons c stem =>
        rw [shape, List.cons_append, List.cons.injEq] at leading
        exact later (by simp [← leading.2])
    next =>
      have ⟨init, c, ends⟩ := List.eq_nil_or_concat' extension |>.resolve_left some_after
      have same : (stem ++ '.' :: init) ++ [c] = before ++ ['.'] := by
        simpa [ends] using shape.symm.trans trailing
      have last : c = '.' := List.singleton_inj.mp (List.append_inj_right' same rfl)
      exact clean (by simp [ends, last])

end Split

section Extension

variable {label extension : String}

theorem ofExtension_of_owns (owns : Owns label extension) : ofExtension extension = label := by
  have own : table.all (fun entry => entry.2.all fun e => ofExtension e = entry.1) = true := by
    decide
  have ⟨extensions, member, listed⟩ := owns
  simpa using List.all_eq_true.mp (List.all_eq_true.mp own _ member) _ listed

theorem ofExtension_of_unowned (unowned : ∀ label, ¬Owns label extension) :
    ofExtension extension = other := by
  unfold ofExtension
  split
  next label extensions found =>
    have member := List.mem_of_find?_eq_some found
    have listed := List.find?_some found
    exact absurd ⟨extensions, member, List.contains_iff_mem.mp listed⟩ (unowned label)
  next => rfl

end Extension

theorem classify_of_splits {name stem extension : List Char}
    (splits : Splits name stem extension) :
    classify (String.ofList name) = ofExtension (Text.lowered (String.ofList extension)) := by
  rw [classify, extension?_eq_some_iff.mpr ⟨stem, extension, splits, rfl⟩]

theorem classify_of_not_splits {name : List Char}
    (unsplit : ∀ stem extension, ¬Splits name stem extension) :
    classify (String.ofList name) = other := by
  unfold classify
  split
  next text found =>
    have ⟨stem, extension, splits, _⟩ := extension?_eq_some_iff.mp found
    exact absurd splits (unsplit stem extension)
  next => rfl

section Typed

variable {last : Option (List Char)} {label : String}

theorem Typed.classify_eq (typed : Typed last label) :
    classify (String.ofList (last.getD ['/'])) = label := by
  cases typed with
  | owned here splits owns =>
    rw [here, Option.getD_some, classify_of_splits splits, ofExtension_of_owns owns]
  | foreign here splits unowned =>
    rw [here, Option.getD_some, classify_of_splits splits, ofExtension_of_unowned unowned]
  | whole unsplit =>
    cases last with
    | none => rfl
    | some name => exact classify_of_not_splits (unsplit name rfl)

theorem typed_classify (last : Option (List Char)) :
    Typed last (classify (String.ofList (last.getD ['/']))) := by
  by_cases split : ∃ name, last = some name ∧ ∃ stem extension, Splits name stem extension
  next =>
    have ⟨name, here, stem, extension, splits⟩ := split
    rw [here, Option.getD_some, classify_of_splits splits]
    by_cases owned : ∃ label, Owns label (Text.lowered (String.ofList extension))
    next =>
      have ⟨label, owns⟩ := owned
      rw [ofExtension_of_owns owns]
      exact .owned rfl splits owns
    next =>
      have unowned := not_exists.mp owned
      rw [ofExtension_of_unowned unowned]
      exact .foreign rfl splits unowned
  next =>
    have unsplit : ∀ name, last = some name → ∀ stem extension, ¬Splits name stem extension :=
      fun name here stem extension splits => split ⟨name, here, stem, extension, splits⟩
    have same : classify (String.ofList (last.getD ['/'])) = other :=
      (Typed.whole unsplit).classify_eq
    rw [same]
    exact .whole unsplit

theorem typed_iff : Typed last label ↔ classify (String.ofList (last.getD ['/'])) = label :=
  ⟨Typed.classify_eq, fun same => same ▸ typed_classify last⟩

end Typed

theorem of?_eq_some_iff {r : Record} (named : r.NamedByPath) {label : String} :
    of? r = some label ↔
      r.isFile = true ∧ Typed (Path.components r.path).getLast? label := by
  rw [typed_iff, of?, named, Path.name_eq_last, Option.ite_none_right_eq_some, Option.some.injEq]

theorem of?_of_splits {r : Record} (named : r.NamedByPath) {name stem extension : List Char}
    (last : (Path.components r.path).getLast? = some name) (splits : Splits name stem extension) :
    of? r =
      if r.isFile then some (ofExtension (Text.lowered (String.ofList extension))) else none := by
  rw [of?, named, Path.name_eq_last, last, Option.getD_some, classify_of_splits splits]

theorem of?_mem_labels {r : Record} {label : String} (typed : of? r = some label) :
    label ∈ labels := by
  rw [of?, Option.ite_none_right_eq_some, Option.some.injEq] at typed
  exact typed.2 ▸ classify_mem_labels r.name

end FileType

section Counts

variable {label : Record → Option String} {records : List Record} {key : String}

theorem count_nonneg (r : Record) : 0 ≤ (Aggregation.count.contribution r).toInt := by
  simp [Aggregation.contribution]

theorem figure_count (records : List Record) :
    figure none (records.map Aggregation.count.contribution) = clamp records.length := by
  rw [figure, Aggregation.map_count, satSum_ones]

theorem Reduction.under_count :
    (Reduction.sum Aggregation.count.contribution).under label records key =
      clamp (records.countP (label · = some key)) := by
  rw [List.countP_eq_length_filter]
  exact figure_count _

theorem clamp_pos {n : Nat} (some_counted : 0 < n) : 0 < clamp n := by
  have above := toInt_maxValue
  rw [Int64.lt_iff_toInt_lt, toInt_clamp_natCast, Int64.toInt_zero]
  omega

theorem clamp_countP_pos (listed : ∃ r ∈ records, label r = some key) :
    0 < clamp (records.countP (label · = some key)) :=
  clamp_pos (List.countP_pos_iff.mpr (by simpa using listed))

end Counts

structure Histogram.CountsFiles (h : Histogram Int64) (records : List Record) : Prop where
  distinct : h.labels.Nodup
  inTableOrder : h.labels.Sublist FileType.labels
  listed : ∀ label, label ∈ h.labels ↔ ∃ r ∈ records, FileType.of? r = some label
  values : ∀ label ∈ h.labels,
    h.get? label = some (clamp (records.countP (FileType.of? · = some label)))
  positive : ∀ v ∈ h.values, 0 < v
  total : h.total = clamp (records.countP Record.isFile)

namespace Engine

theorem histogram_fileType (e : Engine) (s : Subset) :
    ∃ h, e.histogram s .fileType "count" none = .ok h ∧ h.labels.Sublist FileType.labels ∧
      (∀ label, label ∈ h.labels ↔ ∃ r ∈ s.records, FileType.of? r = some label) ∧
      ∀ label ∈ h.labels,
        h.get? label = some (clamp (s.records.countP (FileType.of? · = some label))) := by
  have requested : Reduction.request e.release "count" none Axis.fileType.transforms =
      .ok (.sum Aggregation.count.contribution) := rfl
  have counted : Bucketing.ReducesInOrder (e.fanout.halves s.records)
      (.sum Aggregation.count.contribution) :=
    Bucketing.reducesInOrder_of_nonneg fun _ r _ => count_nonneg r
  have ⟨h, keys, found, shows⟩ := e.histogramOver_showsLabels .fileType rfl requested counted
  rw [e.fanout.toList_halves] at shows
  have ⟨inTableOrder, listed⟩ : keys.Sublist FileType.labels ∧ ∀ key, key ∈ keys ↔
      key ∈ (s.records.filterMap FileType.of?).eraseDups ∧ key ∈ FileType.labels := shows.ordered
  have typed (label : String) : label ∈ keys ↔ ∃ r ∈ s.records, FileType.of? r = some label := by
    rw [listed, List.mem_eraseDups, List.mem_filterMap, and_iff_left_of_imp]
    intro ⟨r, _, of⟩
    exact FileType.of?_mem_labels of
  -- A type is listed only if some file has it, so no bucket is empty and none is kept back.
  have all_shown : h.labels = keys := by
    rw [shows.labels, List.filter_eq_self]
    intro key member
    rw [Reduction.under_count]
    exact decide_eq_true (clamp_countP_pos ((typed key).mp member))
  refine ⟨h, found, all_shown ▸ inTableOrder, all_shown ▸ typed, fun label member => ?_⟩
  rw [shows.values label member, Reduction.under_count]

theorem total_fileType (e : Engine) (s : Subset) :
    ∃ h, e.histogram s .fileType "count" none = .ok h ∧
      h.total = clamp (s.records.countP Record.isFile) := by
  have scaled : Axis.fileType.scale e.release e.now = .ok _ := rfl
  have counted : ∀ r ∈ (e.fanout.halves s.records).toList,
      0 ≤ (Aggregation.count.contribution r).toInt := fun r _ => count_nonneg r
  have ⟨h, found, total⟩ := Scale.histogramOver_covered (Axis.scale_hidesZeros scaled)
    (Axis.scale_places scaled) counted
  refine ⟨h, (e.histogramOver_sum scaled rfl rfl rfl _).trans found, Int64.toInt_inj.mp ?_⟩
  rw [total, toInt_clamp_natCast, e.fanout.toList_halves, Aggregation.map_count, exactSum_ones,
    ← List.countP_eq_length_filter]
  rfl

theorem histogram_fileType_counts (e : Engine) (s : Subset) :
    ∃ h, e.histogram s .fileType "count" none = .ok h ∧ h.CountsFiles s.records := by
  have ⟨h, found, inTableOrder, listed, values⟩ := e.histogram_fileType s
  have ⟨_, found', total⟩ := e.total_fileType s
  have map := histogram_isMap found
  refine ⟨h, found, map.distinct, inTableOrder, listed, values, fun v member => ?_,
    Except.ok.inj (found.symm.trans found') ▸ total⟩
  have ⟨entry, inside, same⟩ := List.mem_map.mp member
  have labelled : entry.1 ∈ h.labels := List.mem_map_of_mem inside
  have here := (map.finds entry inside).symm.trans (values entry.1 labelled)
  rw [← same, Option.some.inj here]
  exact clamp_countP_pos ((listed entry.1).mp labelled)

theorem fileType_classifies_files (e : Engine) (s : Subset)
    (named : ∀ r ∈ s.records, r.NamedByPath) :
    (∃ h, e.histogram s .fileType "count" none = .ok h ∧ h.CountsFiles s.records) ∧
    (∀ r ∈ s.records, ∀ label, FileType.of? r = some label ↔
      r.isFile = true ∧ FileType.Typed (Path.components r.path).getLast? label) ∧
    (∀ name : List Char, (∀ stem extension, ¬FileType.Splits name stem extension) ↔
      '.' ∉ name ∨ (∃ rest, name = '.' :: rest ∧ '.' ∉ rest) ∨ ∃ stem, name = stem ++ ['.']) ∧
    ∀ r ∈ s.records, ∀ r' : Record, r'.NamedByPath → r.isFile = r'.isFile →
      ∀ name name' stem stem' extension extension' : List Char,
        (Path.components r.path).getLast? = some name →
        (Path.components r'.path).getLast? = some name' →
        FileType.Splits name stem extension → FileType.Splits name' stem' extension' →
        Text.lowered (String.ofList extension) = Text.lowered (String.ofList extension') →
        FileType.of? r = FileType.of? r' := by
  refine ⟨e.histogram_fileType_counts s, fun r member label => ?_,
    fun name => FileType.not_splits_iff, ?_⟩
  next => exact FileType.of?_eq_some_iff (named r member)
  next =>
    intro r member r' named' kind name name' stem stem' extension extension' last last' splits
      splits' same
    rw [FileType.of?_of_splits (named r member) last splits,
      FileType.of?_of_splits named' last' splits', kind, same]

def hiddenAndShouted : Subset where
  records :=
    [.file 1 "/données/é.CSV" (.of 1 1 1), .file 2 "/home/.bashrc/" (.of 2 1 1),
      .directory 3 "/backup.csv" {}, .file 4 "/home/.x.tsv" (.of 3 1 1)]

theorem fileType_classifies_files_hidden_and_shouted :
    (∀ r ∈ hiddenAndShouted.records, r.NamedByPath) ∧
    ∃ h, bare.histogram hiddenAndShouted .fileType "count" none = .ok h ∧
      h.get? "CSV" = some 2 ∧ h.total = 3 ∧
      FileType.of? (.file 1 "/données/é.CSV" (.of 1 1 1)) =
        FileType.of? (.file 9 "β.csv" (.of 9 9 9)) ∧
      FileType.of? (.file 2 "/home/.bashrc/" (.of 2 1 1)) = some FileType.other := by
  have named : ∀ r ∈ hiddenAndShouted.records, r.NamedByPath := by
    simp [hiddenAndShouted, Record.file_namedByPath, Record.directory_namedByPath]
  have ⟨⟨h, found, counts⟩, typed, _, alike⟩ :=
    fileType_classifies_files bare hiddenAndShouted named
  have csv : "CSV" ∈ h.labels := (counts.listed "CSV").mpr (by decide)
  refine ⟨named, h, found, (counts.values "CSV" csv).trans (by decide),
    counts.total.trans (by decide), ?_, ?_⟩
  next =>
    have shouted : FileType.Splits "é.CSV".toList "é".toList "CSV".toList :=
      ⟨rfl, by decide, by decide, by decide⟩
    have plain : FileType.Splits "β.csv".toList "β".toList "csv".toList :=
      ⟨rfl, by decide, by decide, by decide⟩
    exact alike _ (by simp [hiddenAndShouted]) (.file 9 "β.csv" (.of 9 9 9)) rfl rfl _ _ _ _ _ _
      (by decide) (by decide) shouted plain (by decide)
  next =>
    refine (typed _ (by simp [hiddenAndShouted]) _).mpr ⟨rfl, .whole fun name last => ?_⟩
    have leading : name = ".bashrc".toList := Option.some.inj (last.symm.trans (by decide))
    exact FileType.not_splits_iff.mpr (.inr (.inl ⟨_, leading, by decide⟩))

end Engine

end Census
