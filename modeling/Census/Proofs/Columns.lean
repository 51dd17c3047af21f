import Census.Proofs.Edits
import Census.Proofs.Language
import Census.Proofs.OutOfRange

set_option autoImplicit false

namespace Census

namespace Text

/-- A character of a number or a name, by which no list of conditions is cut. -/
def isToken (c : Char) : Bool :=
  isVisible c && c ≠ ':' && c ≠ ','

theorem isToken_of_isDigit {c : Char} (digit : c.isDigit = true) : isToken c = true := by
  have colon : c ≠ ':' := by rintro rfl; exact absurd digit (by decide)
  have comma : c ≠ ',' := by rintro rfl; exact absurd digit (by decide)
  simp only [Char.isDigit, ge_iff_le, Bool.and_eq_true, decide_eq_true_eq] at digit
  have lower : '!' ≤ c := UInt32.le_trans (by decide) digit.1
  have upper : c ≤ '~' := UInt32.le_trans digit.2 (by decide)
  simp [isToken, isVisible, lower, upper, colon, comma]

theorem Digits.tokens {cs : List Char} {n : Nat} (digits : Digits cs n) :
    cs.all isToken = true :=
  List.all_eq_true.mpr fun c member => isToken_of_isDigit (digits.2.1 c member)

theorem Numeral.tokens {cs : List Char} {z : Int} (numeral : Numeral cs z) :
    cs.all isToken = true := by
  cases numeral with
  | plain digits => exact digits.tokens
  | plus digits | minus digits =>
    rw [List.all_cons, digits.tokens]
    decide

theorem tokens_of_word64 {text : String} {w : UInt64} (read : word64 text = .ok w) :
    text.toList.all isToken = true := by
  have numeral := word64_eq_ok_iff.mp read
  generalize text.toList = cs at numeral
  cases numeral with
  | plain digits => exact digits.tokens
  | plus digits =>
    rw [List.all_cons, digits.tokens]
    decide

section Tokens

variable {text : String} (tokens : text.toList.all isToken = true)
include tokens

theorem visible_of_tokens : text.toList.all isVisible = true := by
  refine List.all_eq_true.mpr fun c member => ?_
  have token := List.all_eq_true.mp tokens c member
  simp only [isToken, Bool.and_eq_true] at token
  exact token.1.1

theorem colon_not_mem_of_tokens : ':' ∉ text.toList := fun member =>
  absurd (List.all_eq_true.mp tokens _ member) (by decide)

theorem comma_not_mem_of_tokens : ',' ∉ text.toList := fun member =>
  absurd (List.all_eq_true.mp tokens _ member) (by decide)

end Tokens

end Text

theorem LongOp.tokens {operator : String} {op : LongOp} (named : named? operator = some op) :
    operator.toList.all Text.isToken = true := by
  have all : ∀ name ∈ names, name.toList.all Text.isToken = true := by decide
  exact all operator (mem_names_of_lookup named)

theorem segments_of_visible {mark : Char} {text : String}
    (visible : text.toList.all Text.isVisible = true) (clean : mark ∉ text.toList)
    (nonempty : text ≠ "") : segments mark text = [text] := by
  simp [segments, Text.parts, List.splitOn_eq_singleton clean, Text.trim_of_visible visible,
    nonempty]

namespace IndexedConditions

theorem parse_single {index operator operand : String} {place : UInt64} {op : LongOp} {n : Int64}
    (numbered : Text.word64 index = .ok place) (named : LongOp.named? operator = some op)
    (read : Text.int64 operand = .ok n) (now : Int64) :
    parse (index ++ ":" ++ operator ++ ":" ++ operand) now =
      .ok ⟨[(place.toNat, ⟨op, n, now⟩)]⟩ := by
  -- The pieces hold no blank, comma or colon, so the text is cut where they were put together.
  have first := Text.tokens_of_word64 numbered
  have second := LongOp.tokens named
  have third := (Text.int64_eq_ok_iff.mp read).tokens
  have single : segments ',' (index ++ ":" ++ operator ++ ":" ++ operand) =
      [index ++ ":" ++ operator ++ ":" ++ operand] := by
    apply segments_of_visible
    next =>
      simp only [String.toList_append, List.all_append, Text.visible_of_tokens first,
        Text.visible_of_tokens second, Text.visible_of_tokens third]
      decide
    next =>
      simp [Text.comma_not_mem_of_tokens first, Text.comma_not_mem_of_tokens second,
        Text.comma_not_mem_of_tokens third]
    next =>
      intro blank
      have nothing := congrArg String.toList blank
      simp at nothing
  have outer : splitSpec "condition" (index ++ ":" ++ operator ++ ":" ++ operand) =
      .ok (index, operator ++ ":" ++ operand) :=
    splitSpec_eq_ok_iff.mpr ⟨by simp [String.append_assoc], Text.colon_not_mem_of_tokens first⟩
  have inner : splitSpec "condition" (operator ++ ":" ++ operand) = .ok (operator, operand) :=
    splitSpec_eq_ok_iff.mpr ⟨rfl, Text.colon_not_mem_of_tokens second⟩
  have condition : parseOne now (index ++ ":" ++ operator ++ ":" ++ operand) =
      .ok (place.toNat, ⟨op, n, now⟩) := by
    simp [parseOne, outer, numbered, LongComparison.parse, inner, LongComparison.compile, named,
      read, bind, Except.bind, pure, Except.pure]
  simp [parse, single, condition, bind, Except.bind, pure, Except.pure]

theorem prune_of_inside {h : Histogram (List Int64)} {spec : String} {now : Int64}
    {conditions : IndexedConditions} (read : parse spec now = .ok conditions)
    (inside : ∀ entry ∈ h.entries, ∀ condition ∈ conditions.comparisons,
      condition.1 < entry.2.length) :
    prune h spec now = .ok (h.filter fun _ values => conditions.keeps values) := by
  have decided : ∀ entry ∈ h.entries, conditions.Decides entry.2 := fun entry member =>
    decides_in_any_order_iff.mpr (inside entry member) conditions (.refl _)
  exact prune_eq_ok_iff.mpr ⟨conditions, _, read, passing_eq_ok_iff.mpr ⟨decided, rfl⟩, rfl⟩

end IndexedConditions

namespace Histogram

variable {columns : List (Histogram Int64)}

def cell (columns : List (Histogram Int64)) (place : Nat) (label : String) : Int64 :=
  ((columns[place]?).bind (·.get? label)).getD 0

def row (columns : List (Histogram Int64)) (label : String) : List Int64 :=
  columns.map fun column => (column.get? label).getD 0

theorem getElem?_row {place : Nat} (inside : place < columns.length) (label : String) :
    (row columns label)[place]? = some (cell columns place label) := by
  simp [row, cell, inside]

/-- The labels of all columns, in the order in which they first appear when the columns are gone
through in turn, each with what every column has under it. -/
structure Joins (h : Histogram (List Int64)) (columns : List (Histogram Int64)) : Prop where
  labels : h.labels = (columns.flatMap labels).eraseDups
  distinct : h.labels.Nodup
  listed : ∀ label, label ∈ h.labels ↔ ∃ column ∈ columns, label ∈ column.labels
  finds : ∀ entry ∈ h.entries, h.get? entry.1 = some entry.2
  width : ∀ entry ∈ h.entries, entry.2.length = columns.length
  cells : ∀ entry ∈ h.entries, ∀ place < columns.length,
    entry.2[place]? = some (cell columns place entry.1)

def joined (columns : List (Histogram Int64)) : Entries (List Int64) :=
  (columns.flatMap labels).eraseDups.map fun label => (label, row columns label)

theorem Follows.joins {h : Histogram (List Int64)} (follows : h.Follows (joined columns)) :
    h.Joins columns := by
  have labelled : h.labels = (columns.flatMap labels).eraseDups := by
    rw [follows.tells.labels]
    simp [joined, Entries.labels, Function.comp_def]
  have rows : ∀ entry ∈ h.entries,
      h.get? entry.1 = some entry.2 ∧ entry.2 = row columns entry.1 := by
    rw [follows.same]
    intro entry member
    obtain ⟨label, known, rfl⟩ := List.mem_map.mp member
    rw [follows.get?, joined, lookup_map_self, if_pos known]
    exact ⟨rfl, rfl⟩
  constructor
  next => exact labelled
  next => exact follows.tells.labels ▸ follows.distinct
  next =>
    intro label
    rw [labelled, List.mem_eraseDups, List.mem_flatMap]
  next => exact fun entry member => (rows entry member).1
  next =>
    intro entry member
    rw [(rows entry member).2, row, List.length_map]
  next =>
    intro entry member place inside
    rw [(rows entry member).2, getElem?_row inside]

section Direct

theorem getElem?_ofList {entries : Entries Int64} (distinct : entries.labels.Nodup)
    (label : String) : (Std.HashMap.ofList entries)[label]? = entries.lookup label := by
  cases found : entries.lookup label with
  | none =>
    refine Std.HashMap.getElem?_ofList_of_contains_eq_false (Bool.eq_false_iff.mpr fun known => ?_)
    have ⟨entry, member, same⟩ := List.mem_map.mp (List.contains_iff_mem.mp known)
    exact absurd (List.lookup_eq_none_iff.mp found entry member) (by simp [same])
  | some value =>
    have ⟨before, after, shape, _⟩ := List.lookup_eq_some_iff.mp found
    have member : (label, value) ∈ entries := by simp [shape]
    refine Std.HashMap.getElem?_ofList_of_mem (beq_self_eq_true label) ?_ member
    exact (List.pairwise_map.mp distinct).imp beq_false_of_ne

theorem zipColumns_eq (indexed : ∀ column ∈ columns, column.Follows column.entries) :
    zipColumns columns = .ofEntries (joined columns) := by
  rw [zipColumns, KeyTable.keys_ofKeys, joined]
  congr 1
  refine List.map_congr_left fun label _ => ?_
  rw [row, List.map_map]
  congr 1
  refine List.map_congr_left fun column member => ?_
  have follows := indexed column member
  rw [Function.comp_apply, Std.HashMap.getD_eq_getD_getElem?, getElem?_ofList follows.distinct,
    follows.get?]

theorem zipColumns_follows_joined (indexed : ∀ column ∈ columns, column.Follows column.entries) :
    (zipColumns columns).Follows (joined columns) := by
  have follows := zipColumns_follows columns
  rwa [zipColumns_eq indexed] at follows ⊢

end Direct

section InTurn

variable {width place : Nat} {rows : Histogram (List Int64)} {met : List String}
  {content : String → List Int64} {label : String}

def enterCell (width place : Nat) (rows : Histogram (List Int64)) (bucket : String × Int64) :
    Histogram (List Int64) :=
  rows.insert bucket.1 (((rows.get? bucket.1).getD (.replicate width 0)).set place bucket.2)

def enterColumn (width : Nat) (rows : Histogram (List Int64)) (numbered : Histogram Int64 × Nat) :
    Histogram (List Int64) :=
  numbered.1.entries.foldl (enterCell width numbered.2) rows

/-- Goes through the columns in turn, with one list of rows that it changes in place. -/
def joinInTurn (columns : List (Histogram Int64)) : Histogram (List Int64) :=
  columns.zipIdx.foldl (enterColumn columns.length) empty

structure Filled (width : Nat) (rows : Histogram (List Int64)) (met : List String)
    (content : String → List Int64) : Prop where
  follows : rows.Follows (met.eraseDups.map fun label => (label, content label))
  blank : ∀ label, label ∉ met → content label = List.replicate width 0

theorem map_update_of_not_mem {keys : List String} (fresh : label ∉ keys) (value : List Int64) :
    keys.map (fun key => (key, Function.update content label value key)) =
      keys.map fun key => (key, content key) := by
  refine List.map_congr_left fun key member => ?_
  rw [Function.update_of_ne (ne_of_mem_of_not_mem member fresh)]

theorem labels_map {β : Type} (keys : List String) (value : String → β) :
    Entries.labels (keys.map fun key => (key, value key)) = keys := by
  simp [Entries.labels, Function.comp_def]

theorem put_keyed {keys : List String} (distinct : keys.Nodup) (label : String)
    (value : List Int64) :
    Entries.put label value (keys.map fun key => (key, content key)) =
      (if label ∈ keys then keys else keys ++ [label]).map
        fun key => (key, Function.update content label value key) := by
  by_cases known : label ∈ keys
  next =>
    have ⟨before, after, shape, fresh⟩ := List.eq_append_cons_of_mem known
    subst shape
    have apart : label ∉ after :=
      (List.nodup_cons.mp (List.nodup_append.mp distinct).2.1).1
    rw [if_pos known, List.map_append, List.map_cons,
      Entries.put_append_cons _ _ (by rwa [labels_map]), List.map_append, List.map_cons,
      map_update_of_not_mem fresh, map_update_of_not_mem apart, Function.update_self]
  next =>
    rw [if_neg known, Entries.put_of_not_mem _ (by rwa [labels_map]), List.map_append,
      map_update_of_not_mem known]
    simp

theorem Filled.enterCell (filled : Filled width rows met content) (place : Nat) (label : String)
    (value : Int64) :
    Filled width (rows.enterCell width place (label, value)) (met ++ [label])
      (Function.update content label ((content label).set place value)) := by
  have found : (rows.get? label).getD (.replicate width 0) = content label := by
    rw [filled.follows.get?, lookup_map_self]
    by_cases known : label ∈ met
    next => simp [known]
    next => simp [known, filled.blank label known]
  constructor
  next =>
    have entered := filled.follows.insert label ((content label).set place value)
    rw [put_keyed (KeyTable.nodup_eraseDups met), ← KeyTable.eraseDups_snoc] at entered
    simpa only [Histogram.enterCell, found] using entered
  next =>
    intro other fresh
    rw [List.mem_append, List.mem_singleton, not_or] at fresh
    rw [Function.update_of_ne fresh.2, filled.blank other fresh.1]

def withColumn (place : Nat) (entries : Entries Int64) (content : String → List Int64)
    (label : String) : List Int64 :=
  -- A column changes its own place, and that only in the rows of its labels.
  (entries.lookup label).elim (content label) ((content label).set place)

theorem Filled.enterCells (filled : Filled width rows met content) (place : Nat)
    {entries : Entries Int64} (distinct : entries.labels.Nodup) :
    Filled width (entries.foldl (Histogram.enterCell width place) rows) (met ++ entries.labels)
      (withColumn place entries content) := by
  induction entries generalizing rows met content with
  | nil =>
    have same : withColumn place [] content = content := rfl
    simpa [same, Entries.labels] using filled
  | cons entry rest ih =>
    obtain ⟨label, value⟩ := entry
    obtain ⟨fresh, later⟩ := List.nodup_cons.mp distinct
    have next := ih (filled.enterCell place label value) later
    have same : withColumn place rest
          (Function.update content label ((content label).set place value)) =
        withColumn place ((label, value) :: rest) content := by
      funext other
      by_cases here : other = label
      next =>
        subst here
        simp [withColumn, Entries.lookup_of_not_mem fresh]
      next => simp [withColumn, List.lookup_cons, beq_false_of_ne here, Function.update_of_ne here]
    simpa [same, Entries.labels] using next

theorem Filled.enterColumns {todo done : List (Histogram Int64)}
    (indexed : ∀ column ∈ todo, column.Follows column.entries)
    (filled : Filled width rows (done.flatMap labels)
      fun label => row done label ++ List.replicate todo.length 0) :
    Filled width ((todo.zipIdx done.length).foldl (enterColumn width) rows)
      ((done ++ todo).flatMap labels) (row (done ++ todo)) := by
  induction todo generalizing done rows with
  | nil => simpa using filled
  | cons column rest ih =>
    have ⟨first, others⟩ := List.forall_mem_cons.mp indexed
    have entered := filled.enterCells done.length first.distinct
    -- Until now there is a zero at the place of the column, so a label that it lacks needs nothing.
    have content : (withColumn done.length column.entries
          fun label => row done label ++ List.replicate (column :: rest).length 0) =
        fun label => row (done ++ [column]) label ++ List.replicate rest.length 0 := by
      funext label
      rw [withColumn, ← first.get?, List.length_cons, List.replicate_succ]
      cases found : column.get? label <;> simp [row, found]
    have longer : done.length + 1 = (done ++ [column]).length := by simp
    have met : (done ++ [column]).flatMap labels =
        done.flatMap labels ++ Entries.labels column.entries := by
      rw [List.flatMap_append, List.flatMap_singleton]
      rfl
    rw [List.zipIdx_cons, List.foldl_cons, List.append_cons, longer]
    refine ih others ?_
    rw [met, ← content]
    exact entered

theorem entries_joinInTurn (indexed : ∀ column ∈ columns, column.Follows column.entries) :
    (joinInTurn columns).entries = joined columns := by
  have start : Filled columns.length empty (([] : List (Histogram Int64)).flatMap labels)
      fun label => row [] label ++ List.replicate columns.length 0 :=
    ⟨empty_follows, fun _ _ => rfl⟩
  exact (start.enterColumns indexed).follows.same

end InTurn

section Pruned

theorem Joins.values {h : Histogram (List Int64)} (joins : h.Joins columns)
    {entry : String × List Int64} (member : entry ∈ h.entries) {conditions : IndexedConditions}
    (inside : ∀ condition ∈ conditions.comparisons, condition.1 < columns.length) :
    conditions.keeps entry.2 = conditions.comparisons.all fun condition =>
      condition.2.test (cell columns condition.1 entry.1) := by
  rw [Bool.eq_iff_iff, IndexedConditions.keeps_iff, List.all_eq_true]
  refine forall₂_congr fun condition listed => ?_
  have here := joins.cells entry member condition.1 (inside condition listed)
  exact IndexedConditions.met_iff_of_found here condition.2

theorem Joins.pruned {h : Histogram (List Int64)} (joins : h.Joins columns) {spec : String}
    {now : Int64} {conditions : IndexedConditions}
    (read : IndexedConditions.parse spec now = .ok conditions)
    (inside : ∀ condition ∈ conditions.comparisons, condition.1 < columns.length) :
    ∃ t, IndexedConditions.prune h spec now = .ok t ∧
      t.entries = h.entries.filter fun entry => conditions.comparisons.all fun condition =>
        condition.2.test (cell columns condition.1 entry.1) := by
  refine ⟨_, IndexedConditions.prune_of_inside read ?_, ?_⟩
  next =>
    intro entry member
    rwa [joins.width entry member]
  next =>
    rw [Histogram.filter, entries_restrict]
    exact List.filter_congr fun entry member => joins.values member inside

end Pruned

theorem zipColumns_joins (columns : List (Histogram Int64))
    (indexed : ∀ column ∈ columns, column.Follows column.entries) :
    (zipColumns columns).Joins columns ∧
    (zipColumns columns).entries = (joinInTurn columns).entries ∧
    (∀ spec now conditions, IndexedConditions.parse spec now = .ok conditions →
      (∀ condition ∈ conditions.comparisons, condition.1 < columns.length) →
      ∃ t, IndexedConditions.prune (zipColumns columns) spec now = .ok t ∧
        t.entries = (zipColumns columns).entries.filter fun entry =>
          conditions.comparisons.all fun condition =>
            condition.2.test (cell columns condition.1 entry.1)) ∧
    ∀ index operator operand place op n now, Text.word64 index = .ok place →
      place.toNat < columns.length → LongOp.named? operator = some op →
      Text.int64 operand = .ok n →
      ∃ t, IndexedConditions.prune (zipColumns columns)
          (index ++ ":" ++ operator ++ ":" ++ operand) now = .ok t ∧
        t.entries = (zipColumns columns).entries.filter fun entry =>
          (LongComparison.mk op n now).test (cell columns place.toNat entry.1) := by
  have follows := zipColumns_follows_joined indexed
  have joins := follows.joins
  refine ⟨joins, follows.same.trans (entries_joinInTurn indexed).symm,
    fun spec now conditions read inside => joins.pruned read inside, ?_⟩
  intro index operator operand place op n now numbered inside named number
  have read := IndexedConditions.parse_single numbered named number now
  have ⟨t, pruned, kept⟩ := joins.pruned read (by simpa using inside)
  exact ⟨t, pruned, by simpa using kept⟩

def threeColumns : List (Histogram Int64) :=
  [.ofEntries [("a", 1), ("b", 2)], .empty, .ofEntries [("b", 5), ("c", -7)]]

theorem zipColumns_joins_three :
    (∀ column ∈ threeColumns, column.Follows column.entries) ∧
    (zipColumns threeColumns).labels = ["a", "b", "c"] ∧
    (∃ t, IndexedConditions.prune (zipColumns threeColumns) "1:eq:0,2:notEq:0" 0 = .ok t ∧
      t.entries = [("b", [2, 0, 5]), ("c", [0, 0, -7])]) ∧
    Text.word64 "+2" = .ok 2 ∧ (2 : UInt64).toNat < threeColumns.length ∧
    LongOp.named? "lte" = some (.compare .lte) ∧ Text.int64 "0" = .ok 0 ∧
    ∃ t, IndexedConditions.prune (zipColumns threeColumns) "+2:lte:0" 0 = .ok t ∧
      t.entries = [("a", [1, 0, 0]), ("c", [0, 0, -7])] := by
  have indexed : ∀ column ∈ threeColumns, column.Follows column.entries := by
    intro column member
    simp only [threeColumns, List.mem_cons, List.not_mem_nil, or_false] at member
    rcases member with rfl | rfl | rfl
    next => exact ofEntries_follows (by decide)
    next => exact empty_follows
    next => exact ofEntries_follows (by decide)
  have ⟨joins, _, several, one⟩ := zipColumns_joins threeColumns indexed
  have ⟨t, pruned, kept⟩ := several "1:eq:0,2:notEq:0" 0
    ⟨[(1, ⟨.compare .eq, 0, 0⟩), (2, ⟨.compare .notEq, 0, 0⟩)]⟩ rfl (by decide)
  have ⟨u, pruned', kept'⟩ := one "+2" "lte" "0" 2 (.compare .lte) 0 0 rfl (by decide) rfl rfl
  have met : (threeColumns.flatMap labels).eraseDups = ["a", "b", "c"] := by decide
  have rows : (zipColumns threeColumns).entries =
      [("a", [1, 0, 0]), ("b", [2, 0, 5]), ("c", [0, 0, -7])] := by
    rw [(zipColumns_follows_joined indexed).same, joined, met]
    simp [row, threeColumns, get?_ofEntries, List.lookup_cons]
  refine ⟨indexed, joins.labels.trans met, ⟨t, pruned, ?_⟩, rfl, by decide, rfl, rfl, u, pruned',
    ?_⟩
  next =>
    rw [kept, rows]
    simp [cell, threeColumns, get?_ofEntries, List.lookup_cons, LongComparison.test,
      LongComparison.relation, LongComparison.threshold, Relation.holds]
  next =>
    rw [kept', rows]
    simp [cell, threeColumns, get?_ofEntries, List.lookup_cons, LongComparison.test,
      LongComparison.relation, LongComparison.threshold, Relation.holds]

end Histogram

end Census
