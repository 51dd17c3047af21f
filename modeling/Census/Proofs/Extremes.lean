import Census.Proofs.Totals

set_option autoImplicit false

namespace Census

namespace Extreme

variable {extreme : Extreme}

def before (extreme : Extreme) (a b : Int64 × Nat) : Bool :=
  extreme.beats a.1 b.1 || (a.1 = b.1 && a.2 < b.2)

theorem pick_eq (a b : Int64 × Nat) : extreme.pick a b = if extreme.before b a then b else a :=
  rfl

def rank : Extreme → Int64 → Int
  | .least, v => v.toInt
  | .greatest, v => -v.toInt

theorem beats_iff {v w : Int64} : extreme.beats v w = true ↔ extreme.rank v < extreme.rank w := by
  cases extreme <;> simp [beats, rank, Int64.lt_iff_toInt_lt]

theorem rank_injective {v w : Int64} (same : extreme.rank v = extreme.rank w) : v = w := by
  cases extreme with
  | least => exact Int64.toInt_inj.mp same
  | greatest => exact Int64.toInt_inj.mp (Int.neg_inj.mp same)

theorem before_iff {a b : Int64 × Nat} :
    extreme.before a b = true ↔
      extreme.rank a.1 < extreme.rank b.1 ∨ (extreme.rank a.1 = extreme.rank b.1 ∧ a.2 < b.2) := by
  have same : a.1 = b.1 ↔ extreme.rank a.1 = extreme.rank b.1 := ⟨congrArg _, rank_injective⟩
  simp [before, beats_iff, same]

theorem not_before_iff {a b : Int64 × Nat} :
    extreme.before a b = false ↔
      extreme.rank b.1 < extreme.rank a.1 ∨ (extreme.rank a.1 = extreme.rank b.1 ∧ b.2 ≤ a.2) := by
  rw [← Bool.not_eq_true, before_iff]
  omega

theorem not_before_self (c : Int64 × Nat) : extreme.before c c = false :=
  not_before_iff.mpr (.inr ⟨rfl, Nat.le_refl _⟩)

theorem not_before_of_before {a b : Int64 × Nat} (first : extreme.before a b = true) :
    extreme.before b a = false := by
  rw [before_iff] at first
  rw [not_before_iff]
  omega

theorem not_before_trans {a b c : Int64 × Nat} (first : extreme.before a b = false)
    (second : extreme.before b c = false) : extreme.before a c = false := by
  rw [not_before_iff] at first second ⊢
  omega

structure Leads (extreme : Extreme) (candidates : List (Int64 × Nat)) (best : Int64 × Nat) :
    Prop where
  member : best ∈ candidates
  first : ∀ c ∈ candidates, extreme.before c best = false

theorem Leads.merge {xs ys : List (Int64 × Nat)} {a b : Int64 × Nat} (left : extreme.Leads xs a)
    (right : extreme.Leads ys b) : extreme.Leads (xs ++ ys) (extreme.pick a b) := by
  rw [pick_eq]
  cases taken : extreme.before b a with
  | true =>
    have below : extreme.before a b = false := not_before_of_before taken
    exact ⟨List.mem_append_right _ right.member, fun c member =>
      (List.mem_append.mp member).elim (fun here => not_before_trans (left.first c here) below)
        (right.first c)⟩
  | false =>
    exact ⟨List.mem_append_left _ left.member, fun c member =>
      (List.mem_append.mp member).elim (left.first c)
        fun here => not_before_trans (right.first c here) taken⟩

def Best (extreme : Extreme) (candidates : List (Int64 × Nat)) : Option (Int64 × Nat) → Prop
  | none => candidates = []
  | some best => extreme.Leads candidates best

theorem Best.merge {xs ys : List (Int64 × Nat)} {a b : Option (Int64 × Nat)}
    (left : extreme.Best xs a) (right : extreme.Best ys b) :
    extreme.Best (xs ++ ys) (extreme.pick? a b) := by
  cases a with
  | none =>
    obtain rfl : xs = [] := left
    exact right
  | some a =>
    cases b with
    | none =>
      obtain rfl : ys = [] := right
      rwa [List.append_nil]
    | some b => exact Leads.merge left right

theorem best_best? (candidates : List (Int64 × Nat)) :
    extreme.Best candidates (extreme.best? candidates) := by
  induction candidates using List.reverseRecOn with
  | nil => rfl
  | append_singleton candidates c ih =>
    have alone : extreme.Best [c] (some c) :=
      ⟨List.mem_singleton_self c, by simpa using not_before_self c⟩
    rw [best?, List.foldl_append]
    exact ih.merge alone

theorem best_reduce (extreme : Extreme) (cut : Cut (Int64 × Nat)) :
    extreme.Best cut.toList (cut.reduce extreme.best? extreme.pick?) := by
  induction cut with
  | run candidates => exact best_best? candidates
  | join left right hl hr => exact hl.merge hr

def mode : Extreme → FindMode
  | .least => .min
  | .greatest => .max

theorem figure_mode_iff {values : List Int64} (some_given : values ≠ []) (v : Int64) :
    figure (some extreme.mode) values = v ↔ v ∈ values ∧ ∀ w ∈ values, extreme.beats w v = false := by
  cases extreme with
  | least => simp [mode, figure_min_iff some_given, beats]
  | greatest => simp [mode, figure_max_iff some_given, beats]

end Extreme

namespace FindFilter

variable (f : FindFilter) (release : Release) {s : Subset}

def candidates (s : Subset) : List (Int64 × Nat) :=
  s.records.zipIdx.map fun (r, position) => (f.field.value release r, position)

theorem mem_candidates {c : Int64 × Nat} :
    c ∈ f.candidates release s ↔
      ∃ r, s.records[c.2]? = some r ∧ f.field.value release r = c.1 := by
  rw [candidates, List.mem_map]
  constructor
  · intro ⟨(r, i), member, same⟩
    subst same
    exact ⟨r, List.mem_zipIdx_iff_getElem?.mp member, rfl⟩
  · intro ⟨r, here, same⟩
    exact ⟨(r, c.2), List.mem_zipIdx_iff_getElem?.mpr here, Prod.ext same rfl⟩

theorem apply_of_best {fanout : Fanout} {best : Option (Int64 × Nat)}
    (found : (fanout.halves (f.candidates release s)).reduce f.extreme.best? f.extreme.pick? =
      best) :
    f.apply release s fanout = ⟨(best.bind fun (_, position) => s.records[position]?).toList⟩ := by
  rw [← found]
  rfl

theorem apply_first (fanout : Fanout) (some_given : s.records ≠ []) :
    ∃ i r, s.records[i]? = some r ∧ f.apply release s fanout = ⟨[r]⟩ ∧
      ∀ j q, s.records[j]? = some q → f.extreme.before (f.field.value release q, j)
        (f.field.value release r, i) = false := by
  have best := f.extreme.best_reduce (fanout.halves (f.candidates release s))
  rw [Fanout.toList_halves] at best
  generalize found : (fanout.halves (f.candidates release s)).reduce f.extreme.best?
    f.extreme.pick? = c at best
  cases c with
  | none => exact absurd (List.zipIdx_eq_nil_iff.mp (List.map_eq_nil_iff.mp best)) some_given
  | some c =>
    obtain ⟨v, i⟩ := c
    obtain ⟨r, here, same⟩ := (f.mem_candidates release).mp best.member
    refine ⟨i, r, here, by simp [f.apply_of_best release found, here], fun j q there => ?_⟩
    rw [same]
    exact best.first _ ((f.mem_candidates release).mpr ⟨q, there, rfl⟩)

theorem apply_unbeaten (fanout : Fanout) (some_given : s.records ≠ []) :
    ∃ r ∈ s.records, f.apply release s fanout = ⟨[r]⟩ ∧
      ∀ q ∈ s.records,
        f.extreme.beats (f.field.value release q) (f.field.value release r) = false := by
  obtain ⟨i, r, here, found, first⟩ := f.apply_first release fanout some_given
  refine ⟨r, List.mem_of_getElem? here, found, fun q member => ?_⟩
  obtain ⟨j, there⟩ := List.mem_iff_getElem?.mp member
  exact (Bool.or_eq_false_iff.mp (first j q there)).1

end FindFilter

namespace Scale

def byText (text : Record → String) : Scale :=
  .labels (fun r => some (text r)) .discovery fun _ => true

variable (extreme : Extreme) (text : Record → String) (release : Release) (field : LongAttr)

theorem byText_shows (pieces : Cut Record) (spec : FindSpec) :
    (byText text).histogramOver pieces (.find release spec) =
      .ok (Bucketing.Discrete.under (KeyTable.discover (pieces.toList.map fun r => some (text r))
        .discovery).keys.toList (fun r => some (text r)) (.find release spec)
        pieces.toList).histogram := by
  rw [byText, histogramOver,
    Bucketing.discreteOver_under (Bucketing.reducesInOrder_of_find pieces rfl)]
  exact congrArg Except.ok (Histogram.filter_all _)

theorem mem_keys_byText {records : List Record} {key : String} :
    key ∈ (KeyTable.discover (records.map fun r => some (text r)) .discovery).keys.toList ↔
      ∃ q ∈ records, text q = key := by
  rw [KeyTable.mem_discover]
  simp

theorem figure_byText_iff {records : List Record} {q : Record} (inside : q ∈ records) (v : Int64) :
    figure (some extreme.mode) ((records.filter fun r => some (text r) = some (text q)).map
        (field.value release)) = v ↔
      (∃ r ∈ records, text r = text q ∧ field.value release r = v) ∧
        ∀ r ∈ records, text r = text q → extreme.beats (field.value release r) v = false := by
  -- The bucket has the values of the records with this text, of which there is one.
  have values (w : Int64) : w ∈ (records.filter fun r => some (text r) = some (text q)).map
      (field.value release) ↔ ∃ r ∈ records, text r = text q ∧ field.value release r = w := by
    simp [and_assoc]
  have filled := List.ne_nil_of_mem ((values _).mpr ⟨q, inside, rfl, rfl⟩)
  simp only [Extreme.figure_mode_iff filled, values]
  refine and_congr_right fun _ => ⟨fun unbeaten r there same => ?_, fun unbeaten w held => ?_⟩
  · exact unbeaten _ ⟨r, there, same, rfl⟩
  · obtain ⟨r, there, same, rfl⟩ := held
    exact unbeaten r there same

theorem byText_unbeaten {pieces : Cut Record} {r : Record} (member : r ∈ pieces.toList)
    (unbeaten : ∀ q ∈ pieces.toList,
      extreme.beats (field.value release q) (field.value release r) = false) :
    ∃ h, (byText text).histogramOver pieces (.find release ⟨extreme.mode, field⟩) = .ok h ∧
      h.get? (text r) = some (field.value release r) ∧ field.value release r ∈ h.values ∧
      ∀ v ∈ h.values, extreme.beats v (field.value release r) = false := by
  have listed := (mem_keys_byText text).mpr ⟨r, member, rfl⟩
  have held := (figure_byText_iff extreme text release field member
    (field.value release r)).mpr ⟨⟨r, member, rfl, rfl⟩, fun q there _ => unbeaten q there⟩
  refine ⟨_, byText_shows text release pieces _, ?_, ?_, ?_⟩
  · rw [Bucketing.Discrete.under, Histogram.get?_keyed, if_pos listed]
    exact congrArg some held
  · rw [Bucketing.Discrete.under, Histogram.values_ofEntries, List.map_map]
    exact List.mem_map.mpr ⟨text r, listed, held⟩
  · intro v inside
    rw [Bucketing.Discrete.under, Histogram.values_ofEntries, List.map_map] at inside
    obtain ⟨key, there, same⟩ := List.mem_map.mp inside
    obtain ⟨q, among, rfl⟩ := (mem_keys_byText text).mp there
    obtain ⟨⟨one, given, -, rfl⟩, -⟩ := (figure_byText_iff extreme text release field among v).mp same
    exact unbeaten one given

end Scale

theorem LongAttr.resolveLong_name (field : LongAttr) (operator : String) :
    Attribute.resolveLong field.name operator = .ok field := by
  rw [Attribute.resolveLong, show field.name = (Attribute.long field).name from rfl,
    Attribute.resolve_name]
  rfl

theorem FindSpec.parse_describe (spec : FindSpec) : parse spec.describe = .ok spec := by
  obtain ⟨mode, field⟩ := spec
  have split : splitSpec "find" (describe ⟨mode, field⟩) = .ok (mode.name, field.name) :=
    splitSpec_eq_ok_iff.mpr ⟨rfl, by cases mode <;> decide⟩
  have named : FindMode.resolve mode.name = .ok mode := by cases mode <;> rfl
  simp only [parse, split, bind, Except.bind, named, field.resolveLong_name]
  rfl

theorem FindSpec.trim_describe (spec : FindSpec) : Text.trim spec.describe = spec.describe := by
  obtain ⟨mode, field⟩ := spec
  have mode_visible : mode.name.toList.all Text.isVisible = true := by cases mode <;> decide
  have field_visible : field.name.toList.all Text.isVisible = true := by cases field <;> decide
  apply Text.trim_of_visible
  simp only [describe, String.toList_append, List.all_append, mode_visible, field_visible]
  decide

theorem FindSpec.describe_ne_empty (spec : FindSpec) : spec.describe ≠ "" := by
  intro blank
  have nothing := congrArg String.toList blank
  simp [describe] at nothing

theorem Reduction.request_describe (release : Release) (sum : String) (spec : FindSpec)
    (transforms : Transforms) :
    request release sum (some spec.describe) transforms = .ok (.find release spec) := by
  refine request_of_spec ?_ spec.parse_describe transforms
  rw [Option.map_some, spec.trim_describe,
    Option.filter_some_pos (by simpa using spec.describe_ne_empty)]

theorem FindFilter.parse_describe (extreme : Extreme) (field : LongAttr) :
    parse (FindSpec.describe ⟨extreme.mode, field⟩) = .ok ⟨extreme, field⟩ := by
  have split : splitSpec "findFilter" (FindSpec.describe ⟨extreme.mode, field⟩) =
      .ok (extreme.mode.name, field.name) :=
    splitSpec_eq_ok_iff.mpr ⟨rfl, by cases extreme <;> decide⟩
  have named : Extreme.resolve extreme.mode.name = .ok extreme := by cases extreme <;> rfl
  simp only [parse, split, bind, Except.bind, named, field.resolveLong_name]
  rfl

namespace Engine

theorem findFilter_describe (e : Engine) (s : Subset) (extreme : Extreme) (field : LongAttr) :
    e.findFilter s (FindSpec.describe ⟨extreme.mode, field⟩) =
      .ok (FindFilter.apply ⟨extreme, field⟩ e.release s e.fanout) := by
  rw [findFilter, FindSpec.trim_describe, if_neg (FindSpec.describe_ne_empty _),
    FindFilter.parse_describe]
  rfl

theorem findFilter_unbeaten (e : Engine) {s : Subset} (some_given : s.records ≠ [])
    (extreme : Extreme) (field : LongAttr) :
    ∃ r ∈ s.records, e.findFilter s (FindSpec.describe ⟨extreme.mode, field⟩) = .ok ⟨[r]⟩ ∧
      ∀ q ∈ s.records,
        extreme.beats (field.value e.release q) (field.value e.release r) = false := by
  obtain ⟨r, member, found, unbeaten⟩ :=
    FindFilter.apply_unbeaten ⟨extreme, field⟩ e.release e.fanout some_given
  exact ⟨r, member, (e.findFilter_describe s extreme field).trans (congrArg Except.ok found),
    unbeaten⟩

theorem histogram_byText_unbeaten (e : Engine) {s : Subset} {axis : Axis} {text : Record → String}
    (scaled : axis.scale e.release e.now = .ok (.byText text)) {extreme : Extreme}
    {field : LongAttr} {r : Record} (member : r ∈ s.records)
    (unbeaten : ∀ q ∈ s.records,
      extreme.beats (field.value e.release q) (field.value e.release r) = false) :
    ∃ h, (∀ sum, e.histogram s axis sum (some (FindSpec.describe ⟨extreme.mode, field⟩)) = .ok h) ∧
      h.get? (text r) = some (field.value e.release r) ∧ field.value e.release r ∈ h.values ∧
      ∀ v ∈ h.values, extreme.beats v (field.value e.release r) = false := by
  have whole : (e.fanout.halves s.records).toList = s.records := e.fanout.toList_halves _
  rw [← whole] at member unbeaten
  obtain ⟨h, found, most⟩ := Scale.byText_unbeaten extreme text e.release field member unbeaten
  refine ⟨h, fun sum => ?_, most⟩
  rw [histogram, e.histogramOver_of_request scaled (Reduction.request_describe ..)]
  exact found

theorem find_agrees (e other : Engine) {s : Subset} (released : other.release = e.release)
    (some_given : s.records ≠ []) (extreme : Extreme) (field : LongAttr) :
    ∃ r ∈ s.records, e.findFilter s (FindSpec.describe ⟨extreme.mode, field⟩) = .ok ⟨[r]⟩ ∧
      ∀ axis label, (axis, label) ∈ [(Axis.owner, r.user), (Axis.group, r.group)] → ∃ h,
        (∀ sum, other.histogram s axis sum (some (FindSpec.describe ⟨extreme.mode, field⟩)) =
          .ok h) ∧
        h.get? label = some (field.value e.release r) ∧ field.value e.release r ∈ h.values ∧
        ∀ v ∈ h.values, extreme.beats v (field.value e.release r) = false := by
  obtain ⟨r, member, found, unbeaten⟩ := e.findFilter_unbeaten some_given extreme field
  refine ⟨r, member, found, fun axis label listed => ?_⟩
  rw [← released] at unbeaten ⊢
  rcases List.mem_cons.mp listed with owner | group
  · cases owner
    exact other.histogram_byText_unbeaten rfl member unbeaten
  · cases List.mem_singleton.mp group
    exact other.histogram_byText_unbeaten rfl member unbeaten

theorem found_record_has_end_bucket (e other : Engine) (s : Subset) (field : LongAttr)
    (released : other.release = e.release) (some_given : s.records ≠ []) :
    (∃ r ∈ s.records, e.findFilter s ("max:" ++ field.name) = .ok ⟨[r]⟩ ∧
      ∀ axis label, (axis, label) ∈ [(Axis.owner, r.user), (Axis.group, r.group)] → ∃ h,
        (∀ sum, other.histogram s axis sum (some ("max:" ++ field.name)) = .ok h) ∧
        h.values.max? = some (field.value e.release r) ∧
        h.get? label = some (field.value e.release r)) ∧
    ∃ r ∈ s.records, e.findFilter s ("min:" ++ field.name) = .ok ⟨[r]⟩ ∧
      ∀ axis label, (axis, label) ∈ [(Axis.owner, r.user), (Axis.group, r.group)] → ∃ h,
        (∀ sum, other.histogram s axis sum (some ("min:" ++ field.name)) = .ok h) ∧
        h.values.min? = some (field.value e.release r) ∧
        h.get? label = some (field.value e.release r) := by
  constructor
  · obtain ⟨r, member, found, shown⟩ := e.find_agrees other released some_given .greatest field
    refine ⟨r, member, found, fun axis label listed => ?_⟩
    obtain ⟨h, answered, held, inside, most⟩ := shown axis label listed
    refine ⟨h, answered, List.max?_eq_some_iff.mpr ⟨inside, fun v there => ?_⟩, held⟩
    exact Int64.not_lt.mp (of_decide_eq_false (most v there))
  · obtain ⟨r, member, found, shown⟩ := e.find_agrees other released some_given .least field
    refine ⟨r, member, found, fun axis label listed => ?_⟩
    obtain ⟨h, answered, held, inside, most⟩ := shown axis label listed
    refine ⟨h, answered, List.min?_eq_some_iff.mpr ⟨inside, fun v there => ?_⟩, held⟩
    exact Int64.not_lt.mp (of_decide_eq_false (most v there))

/-- No size is as great as that of a bucket without records. -/
def belowZero : Subset where
  records :=
    [{ Record.file 1 "/a" (.of (-9) 1 1) with user := "x" },
      { Record.file 2 "/b" (.of (-5) 1 1) with user := "y" },
      { Record.file 3 "/c" (.of (-7) 1 1) with user := "x" }]

theorem found_record_has_end_bucket_below_zero :
    let spread := bare.withFanout { threshold := 0, morsel := 1 }
    spread.release = bare.release ∧ belowZero.records ≠ [] ∧
      ∃ h, (∀ sum, spread.histogram belowZero .owner sum (some "max:fileSize") = .ok h) ∧
        h.values.max? = some (-5) ∧ h.get? "y" = some (-5) := by
  intro spread
  have released : spread.release = bare.release := rfl
  have some_given : belowZero.records ≠ [] := by decide
  obtain ⟨⟨r, -, found, shown⟩, -⟩ :=
    found_record_has_end_bucket bare spread belowZero .fileSize released some_given
  have first : bare.findFilter belowZero "max:fileSize" =
      .ok ⟨[{ Record.file 2 "/b" (.of (-5) 1 1) with user := "y" }]⟩ := rfl
  cases first.symm.trans found
  obtain ⟨h, answered, greatest, held⟩ := shown .owner "y" (.head _)
  exact ⟨released, some_given, h, answered, greatest, held⟩

end Engine

end Census
