import Census.Engine.Axis
import Census.Proofs.Numerals
import Census.Proofs.Ranges
import Census.Proofs.Totals

set_option autoImplicit false

namespace Census

namespace Relation

def operator : Relation → String
  | .eq => "eq"
  | .notEq => "notEq"
  | .gt => "gt"
  | .gte => "gte"
  | .lt => "lt"
  | .lte => "lte"

def spec (relation : Relation) (n : Int64) : String :=
  relation.operator ++ ":" ++ Text.decimal n.toInt

theorem named?_operator (relation : Relation) :
    LongOp.named? relation.operator = some (.compare relation) := by
  cases relation <;> rfl

theorem operator_clean (relation : Relation) : ':' ∉ relation.operator.toList := by
  cases relation <;> decide

end Relation

namespace Filter

variable {now : Int64} {release : Release}

theorem compile_long (now : Int64) (a : LongAttr) {operator : String} {op : LongOp}
    (named : LongOp.named? operator = some op) (clean : ':' ∉ operator.toList) (n : Int64) :
    compile now a.name (operator ++ ":" ++ Text.decimal n.toInt) = .ok (.long a ⟨op, n, now⟩) := by
  have compared : condition (.long a) operator (Text.decimal n.toInt) now =
      .ok (.long a ⟨op, n, now⟩) := by
    simp [condition, LongComparison.compile, named, Text.int64_decimal, bind, Except.bind, pure,
      Except.pure]
  exact (compile_spelled now (.long a) ⟨rfl, clean⟩).trans compared

theorem compile_spec (now : Int64) (a : LongAttr) (relation : Relation) (n : Int64) :
    compile now a.name (relation.spec n) = .ok (.long a ⟨.compare relation, n, now⟩) :=
  compile_long now a relation.named?_operator relation.operator_clean n

theorem compileEach_specs (now : Int64) (a : LongAttr) (limits : List (Relation × Int64)) :
    compileEach now (limits.map fun limit => (a.name, limit.1.spec limit.2)) =
      .ok (limits.map fun limit => .long a ⟨.compare limit.1, limit.2, now⟩) := by
  induction limits with
  | nil => rfl
  | cons limit rest ih =>
    simp only [List.map_cons, compileEach, compile_spec, ih, bind, Except.bind, pure, Except.pure]

theorem compileAll_specs (now : Int64) (a : LongAttr) (limits : List (Relation × Int64)) :
    compileAll now (limits.map fun _ => a.name) (limits.map fun limit => limit.1.spec limit.2) =
      .ok (.all (limits.map fun limit => .long a ⟨.compare limit.1, limit.2, now⟩)) := by
  rw [compileAll, if_pos (by simp), List.zip_map', compileEach_specs]
  rfl

theorem accepts_specs (a : LongAttr) (limits : List (Relation × Int64)) (r : Record) :
    (Predicate.all (limits.map fun limit => .long a ⟨.compare limit.1, limit.2, now⟩)).accepts
      release r = .ok (limits.all fun limit => limit.1.holds (a.value release r) limit.2) := by
  rw [Predicate.accepts_all]
  induction limits with
  | nil => rfl
  | cons limit rest ih =>
    rw [List.map_cons, Predicate.acceptsAll, ih, Predicate.accepts, List.all_cons]
    simp only [LongComparison.test, LongComparison.relation, LongComparison.threshold]
    cases limit.1.holds (a.value release r) limit.2 <;> rfl

theorem compileAll_text (now : Int64) (a : TextAttr) (operand : String) :
    compileAll now [a.name] ["eq:" ++ operand] = .ok (.text a ⟨.eq, false⟩ operand) := by
  have compared : condition (.text a) "eq" operand now = .ok (.text a ⟨.eq, false⟩ operand) := rfl
  have spelled : Spelled ("eq:" ++ operand) "eq" operand := ⟨rfl, by decide⟩
  have compiled : compile now a.name ("eq:" ++ operand) = .ok (.text a ⟨.eq, false⟩ operand) :=
    (compile_spelled now (.text a) spelled).trans compared
  exact compileAll_single compiled

theorem accepts_text (a : TextAttr) (operand : String) (r : Record) :
    (Predicate.text a ⟨.eq, false⟩ operand).accepts release r =
      .ok (decide (some (a.value r) = some operand)) := by
  refine congrArg Except.ok (Bool.eq_iff_iff.mpr ?_)
  simp [TextOp.holds, TextTest.holds]

end Filter

namespace Scale

variable (records : List Record) (f : Record → Int64)

theorem share_of_label (label : Record → Option String) {order : KeyOrder}
    (unlisted : ∀ list, order ≠ .canonical list) {shown : Int64 → Bool}
    (hides : ∀ v, shown v = false → v = 0) (key : String) :
    ∃ h, (labels label order shown).histogramOver (.run records) (.sum f) = .ok h ∧
      (h.get? key).getD 0 = satSum ((records.filter fun r => label r = some key).map f) := by
  obtain ⟨d, summed, buckets⟩ :=
    Bucketing.discreteOver_sum (Bucketing.sumsInOrder_run records f) label order
  refine ⟨_, by simp only [histogramOver, summed]; rfl, ?_⟩
  rw [buckets, Histogram.filter_keyed, Histogram.get?_keyed, Cut.toList]
  split
  next => rfl
  next missing =>
    -- The bucket is not shown, or no record has the label: either way its sum is zero.
    rw [Option.getD_none]
    by_cases known : key ∈ (KeyTable.discover (records.map label) order).keys.toList
    · have hidden :
          shown (satSum ((records.filter fun r => label r = some key).map f)) = false := by
        simpa [known] using missing
      exact (hides _ hidden).symm
    · have nobody : records.filter (fun r => label r = some key) = [] := by
        apply List.filter_eq_nil_iff.mpr
        intro r member here
        apply known
        exact KeyTable.mem_discover.mpr
          ⟨of_decide_eq_true here ▸ List.mem_map_of_mem member,
            fun list order => absurd order (unlisted list)⟩
      rw [nobody]
      rfl

theorem share_of_range (dimension : Record → Int64) {layout : RangedLayout}
    (distinct : layout.labels.Nodup) {k : Nat} (inside : k < layout.labels.length) :
    ∃ h, (ranges layout dimension).histogramOver (.run records) (.sum f) = .ok h ∧
      (h.get? layout.labels[k]).getD 0 =
        satSum ((records.filter fun r => layout.bucketOf (dimension r) = k).map f) := by
  by_cases none_given : records = []
  · refine ⟨.empty, by simp [histogramOver, Bucketing.rangedOver, Cut.toList, none_given], ?_⟩
    rw [none_given, Histogram.get?_empty]
    rfl
  · refine ⟨_, Bucketing.rangedOver_sum (Bucketing.sumsInOrder_run records f) none_given dimension
      layout, ?_⟩
    rw [Histogram.get?_ofEntries, Histogram.lookup_zip_of_nodup distinct inside
      (by simpa [RangedLayout.size] using inside)]
    simp [Cut.toList]

end Scale

namespace Engine

variable {e : Engine} {s : Subset} {name : String} {a : Aggregation}

theorem combinedFilter_of_decided {fields specs : List String} {p : Predicate}
    (compiled : Filter.compileAll e.now fields specs = .ok p) {keep : Record → Bool}
    (decides : ∀ r, p.accepts e.release r = .ok (keep r)) (distinct : s.ids.Nodup) :
    e.combinedFilter s fields specs = .ok ⟨s.records.filter keep⟩ := by
  have kept : Subset.admits e.release p = keep := by
    funext r
    rw [Subset.admits, decides r]
    rfl
  rw [combinedFilter_eq e s compiled, Subset.selected, Subset.firsts_of_nodup distinct,
    Subset.select_of_decided fun r _ => ⟨keep r, decides r⟩, kept]
  rfl

theorem spreads_of_le {fanout : Fanout} {m n : Nat} (below : m ≤ n)
    (sequential : fanout.spreads n = false) : fanout.spreads m = false := by
  simp only [Fanout.spreads, Bool.and_eq_false_iff, decide_eq_false_iff_not] at sequential ⊢
  omega

theorem sum_of_sequential (resolved : Aggregation.resolve name = .ok a)
    (sequential : e.fanout.spreads s.size = false) :
    e.sum s name = .ok (satSum (s.records.map a.contribution)) := by
  have whole : e.fanout.morsels s.records = .run s.records :=
    Fanout.morsels_of_sequential sequential
  rw [e.sum_of_resolved s resolved, whole, Aggregation.sumOver_run]

def Agrees (e : Engine) (s : Subset) (axis : Axis) (name label : String)
    (fields specs : List String) : Prop :=
  ∃ h t v, e.histogram s axis name none = .ok h ∧ e.combinedFilter s fields specs = .ok t ∧
    e.sum t name = .ok v ∧ (h.get? label).getD 0 = v

theorem agrees_of_share (keep : Record → Bool) {axis : Axis} {scale : Scale} {label : String}
    {fields specs : List String} {p : Predicate} (resolved : Aggregation.resolve name = .ok a)
    (distinct : s.ids.Nodup) (sequential : e.fanout.spreads s.size = false)
    (scaled : axis.scale e.release e.now = .ok scale) (plain : axis.transforms = [])
    (compiled : Filter.compileAll e.now fields specs = .ok p)
    (decides : ∀ r, p.accepts e.release r = .ok (keep r))
    (share : ∃ h, scale.histogramOver (.run s.records) (.sum a.contribution) = .ok h ∧
      (h.get? label).getD 0 = satSum ((s.records.filter keep).map a.contribution)) :
    e.Agrees s axis name label fields specs := by
  obtain ⟨h, found, shows⟩ := share
  have whole : e.fanout.halves s.records = .run s.records :=
    Fanout.halves_of_sequential sequential
  have fewer : e.fanout.spreads (Subset.size ⟨s.records.filter keep⟩) = false :=
    spreads_of_le (List.length_filter_le keep s.records) sequential
  refine ⟨h, _, _, ?_, combinedFilter_of_decided compiled decides distinct,
    sum_of_sequential resolved fewer, shows⟩
  rw [histogram, whole, e.histogramOver_sum scaled plain resolved rfl]
  exact found

theorem agrees_on_text (attr : TextAttr) (operand : String) {axis : Axis}
    (resolved : Aggregation.resolve name = .ok a) (distinct : s.ids.Nodup)
    (sequential : e.fanout.spreads s.size = false) (plain : axis.transforms = [])
    (scaled : axis.scale e.release e.now =
      .ok (.labels (fun r => some (attr.value r)) .discovery fun _ => true)) :
    e.Agrees s axis name operand [attr.name] ["eq:" ++ operand] := by
  apply agrees_of_share (fun r => some (attr.value r) = some operand) resolved distinct sequential
    scaled plain (Filter.compileAll_text e.now attr operand)
  · exact Filter.accepts_text attr operand
  · exact Scale.share_of_label _ _ _ (by simp) (by simp) operand

theorem agrees_on_replication (n : Int64) (resolved : Aggregation.resolve name = .ok a)
    (distinct : s.ids.Nodup) (sequential : e.fanout.spreads s.size = false) :
    e.Agrees s (.replication []) name (Text.decimal n.toInt)
      [LongAttr.replication.name] [Relation.eq.spec n] := by
  apply agrees_of_share
    (fun r => some (Text.decimal r.replication.toInt) = some (Text.decimal n.toInt))
    resolved distinct sequential rfl rfl (Filter.compileAll_specs e.now .replication [(.eq, n)])
  · intro r
    rw [Filter.accepts_specs]
    -- The bucket compares texts and the filter words, and a word has one decimal form.
    have same : Text.decimal r.replication.toInt = Text.decimal n.toInt ↔ r.replication = n :=
      Text.decimal_eq_iff
    have compared : Relation.eq.holds r.replication n = true ↔ r.replication = n :=
      decide_eq_true_iff
    refine congrArg Except.ok (Bool.eq_iff_iff.mpr ?_)
    simp [LongAttr.value, compared, same]
  · exact Scale.share_of_label _ _ _ (by simp) (by simp) _

theorem agrees_on_range {k : Nat} (inside : k < RangedLayout.spaceSize.labels.length)
    (resolved : Aggregation.resolve name = .ok a) (distinct : s.ids.Nodup)
    (sequential : e.fanout.spreads s.size = false) :
    e.Agrees s .fileSize name RangedLayout.spaceSize.labels[k]
      ((RangedLayout.spaceSize.limits k).map fun _ => LongAttr.fileSize.name)
      ((RangedLayout.spaceSize.limits k).map fun limit => limit.1.spec limit.2) := by
  apply agrees_of_share (fun r => RangedLayout.spaceSize.bucketOf r.fileSize = k) resolved distinct
    sequential rfl rfl (Filter.compileAll_specs e.now .fileSize (RangedLayout.spaceSize.limits k))
  · intro r
    rw [Filter.accepts_specs]
    refine congrArg Except.ok (Bool.eq_iff_iff.mpr ?_)
    rw [List.all_eq_true, decide_eq_true_eq, RangedLayout.bucketOf_eq_iff _ _ inside]
    rfl
  · exact Scale.share_of_range _ _ _ (by decide) inside

theorem buckets_agree (e : Engine) (s : Subset) (name : String) {a : Aggregation}
    (resolved : Aggregation.resolve name = .ok a) (distinct : s.ids.Nodup)
    (sequential : e.fanout.spreads s.size = false) :
    (∀ user, e.Agrees s .owner name user ["user"] ["eq:" ++ user]) ∧
    (∀ group, e.Agrees s .group name group ["group"] ["eq:" ++ group]) ∧
    (∀ n : Int64, e.Agrees s (.replication []) name (Text.decimal n.toInt)
      ["fileReplica"] ["eq:" ++ Text.decimal n.toInt]) ∧
    ∀ k (inside : k < RangedLayout.spaceSize.labels.length),
      e.Agrees s .fileSize name RangedLayout.spaceSize.labels[k]
        ((RangedLayout.spaceSize.limits k).map fun _ => "fileSize")
        ((RangedLayout.spaceSize.limits k).map fun limit => limit.1.spec limit.2) := by
  refine ⟨?_, ?_, ?_, ?_⟩
  · intro user
    exact agrees_on_text .user user resolved distinct sequential rfl rfl
  · intro group
    exact agrees_on_text .group group resolved distinct sequential rfl rfl
  · intro n
    exact agrees_on_replication n resolved distinct sequential
  · intro k inside
    exact agrees_on_range inside resolved distinct sequential

def atThreshold : Subset where
  records :=
    [{ Record.file 1 "/a" (.of 1024 3 1) with user := "ann:bob" },
      { Record.file 2 "/b" (.of 1025 3 1) with user := "ann" }]

theorem buckets_agree_at_threshold :
    bare.Agrees atThreshold .owner "fileSize" "ann:bob" ["user"] ["eq:ann:bob"] ∧
      bare.Agrees atThreshold .fileSize "fileSize" "1KB" ["fileSize", "fileSize"]
        ["gt:0", "lte:1024"] := by
  have agree := buckets_agree bare atThreshold "fileSize" rfl (by decide) (by decide)
  exact ⟨agree.1 "ann:bob", agree.2.2.2 1 (by decide)⟩

end Engine

end Census
